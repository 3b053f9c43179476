/-
**A saved index comes back, and means the same elsewhere.**

An index is saved in a file that is named for its module. The name of a module is one of C, so that
the name of the file is plain (`ScalarIndex.isPlain_fileName`) and loading takes it for that of an
index (`ScalarIndex.isIndexFileName_fileName`).

* `Session.runOn_loadIndex_saved`: an index whose file is written is loaded from it, annotated;
* `Inventory.annotate_index`: a published index is annotated, and so comes back as it was;
* `Inventory.isSome_slot?_index_iff`: a published index has the names of the module's scalars;
* `Context.hostForm_through_index`: a name that is found in the index of another module is rendered as
  in that module.
-/

import ForeignGlue.Proofs.Outcome
import ForeignGlue.Proofs.ScalarIndex.Format
import ForeignGlue.Proofs.ScalarIndex.Lookup
import ForeignGlue.Proofs.Session.Files

namespace ForeignGlue

open ForeignGlue.Text

/-! ### The file of an index -/

namespace ScalarIndex

theorem toList_fileName (module : String) :
    (fileName module).toList = module.toList ++ ".scalars".toList :=
  String.toList_append

theorem isPlain_fileName {module : String} (isName : Expression.IsIdentifier module.toList) :
    Directory.IsPlain (fileName module) := by
  obtain ⟨first, more, spelled, start, inside⟩ := isName
  have known : ∀ c ∈ (fileName module).toList, isNameChar c ∨ c ∈ ".scalars".toList := by
    intro c member
    rw [toList_fileName, spelled, List.mem_append, List.mem_cons] at member
    rcases member with (rfl | member) | member
    · exact .inl (isNameChar_of_isNameStart start)
    · exact .inl (List.all_eq_true.mp inside c member)
    · exact .inr member
  have long (short : String) (size : short.toList.length < 9) :
      (fileName module == short) = false := by
    rw [beq_eq_false_iff_ne]
    rintro rfl
    rw [toList_fileName, spelled] at size
    simp only [List.length_append, List.length_cons] at size
    have eight : ".scalars".toList.length = 8 := rfl
    omega
  refine ⟨fun member => ?_, fun member => ?_, ?_, long ".." (by decide)⟩
  · exact absurd (known '/' member) (by decide)
  · exact absurd (known '\x00' member) (by decide)
  · rw [Directory.isStay, long "" (by decide), long "." (by decide)]
    rfl

theorem isIndexFileName_fileName {module : String}
    (isName : Expression.IsIdentifier module.toList) :
    Session.isIndexFileName (fileName module) = true := by
  obtain ⟨first, more, spelled, start, inside⟩ := isName
  have stem : (fileName module).toList.length - 8 = module.toList.length := by
    rw [toList_fileName, List.length_append]
    rfl
  simp only [Session.isIndexFileName, stem]
  rw [toList_fileName, List.drop_left, List.take_left, spelled]
  simp [start, inside]

end ScalarIndex

/-! ### Saving and loading -/

namespace Session

open ForeignGlue.ScalarIndex (fileName)

variable {index : ScalarIndex} {directory : Directory}

theorem runOn_saveIndex (index : ScalarIndex) :
    (saveIndex index).runOn directory =
      match directory.write? (fileName index.module) index.write with
      | some saved => (.ok (fileName index.module), saved)
      | none => (.error (.fileAccess (fileName index.module)), directory) := by
  rw [saveIndex, runOn_bind, runOn_writeFile]
  cases directory.write? (fileName index.module) index.write with
  | none => rfl
  | some saved => rfl

/-- An index that is read from a text is annotated when it is loaded. -/
theorem runOn_loadIndex {path text : String}
    (named : (Directory.fileName? path).any isIndexFileName = true)
    (there : directory.read? path = some text) (read : ScalarIndex.read text = some index) :
    (loadIndex path).runOn directory = (.ok index.annotate, directory) := by
  rw [loadIndex, named, Bool.not_true, if_neg Bool.false_ne_true, runOn_bind, runOn_readFile, there]
  dsimp only
  rw [read]
  rfl

/-- **A saved index comes back** annotated, from the directory that its file is written in. Its slots
are words, as they are written as numbers. -/
theorem runOn_loadIndex_saved {saved : Directory}
    (isName : Expression.IsIdentifier index.module.toList)
    (words : ∀ entry ∈ index.slots.entries, entry.2 < wordCount)
    (written : directory.write? (fileName index.module) index.write = some saved) :
    (loadIndex (fileName index.module)).runOn saved = (.ok index.annotate, saved) := by
  have plain := ScalarIndex.isPlain_fileName isName
  have named : (Directory.fileName? (fileName index.module)).any isIndexFileName = true := by
    rw [Directory.fileName?_of_isPlain plain]
    exact ScalarIndex.isIndexFileName_fileName isName
  rw [Directory.write?_of_isPlain plain, Option.ite_none_right_eq_some] at written
  obtain ⟨takes, same⟩ := written
  obtain rfl := Option.some.inj same
  rw [← index.annotate_unannotated]
  exact runOn_loadIndex named (Directory.read?_set_of_isPlain plain takes.1 _)
    (ScalarIndex.read_write words)

end Session

/-! ### An index in another module -/

/-- **The names in a published index** are those of the module's scalars, in any case. -/
theorem Inventory.isSome_slot?_index_iff {inventory : Inventory} {name : String} :
    (inventory.index.slot? name).isSome ↔ ∃ v ∈ inventory.scalars, sameName v.name name := by
  simp only [sameName_iff]
  exact SlotMap.isSome_get?_iff

/-- **A published index is annotated**, as the scalars of the module are. -/
theorem Inventory.annotate_index (inventory : Inventory) :
    inventory.index.annotate = inventory.index := by
  have same : inventory.scalars.map Variable.annotate = inventory.scalars := by
    refine (List.map_congr_left fun v member => ?_).trans (List.map_id _)
    exact inventory.annotated v (List.mem_append_left _ (List.mem_append_left _ member))
  show ({ inventory.index with scalars := inventory.scalars.map Variable.annotate } : ScalarIndex) = _
  rw [same]
  rfl

namespace Context

variable {ctx : Context} {name : String}

theorem dictionary_get?_eq_none (absent : ∀ v ∈ ctx.inventory.scalars, ¬sameName v.name name) :
    ctx.scope.dictionary.get? (lower name) = none := by
  rw [← Option.not_isSome_iff_eq_none]
  show ¬(ctx.inventory.dictionary.get? (lower name)).isSome
  rw [ctx.inventory.dictionary_eq, SlotMap.isSome_get?_iff]
  rintro ⟨v, member, named⟩
  exact absent v member (sameName_iff.mpr named)

/-- **A name of another module**, found in the index of that module before anywhere else, is
rendered as it is there. -/
theorem hostForm_through_index {other : Context} {earlier later : List ScalarIndex}
    (externals : other.externals = earlier ++ ctx.inventory.index :: later)
    (isName : Expression.IsIdentifier name.toList)
    (absent : ∀ v ∈ other.inventory.scalars, ¬sameName v.name name)
    (notEarlier : ∀ index ∈ earlier, index.slot? name = none)
    (found : (ctx.inventory.index.slot? name).isSome) :
    ∃ text, ctx.scope.hostForm .none name = .ok text ∧
      other.scope.hostForm .none name = .ok text := by
  obtain ⟨slot, slotFound⟩ := Option.isSome_iff_exists.mp found
  have here : ctx.scope.resolve name = .ok (.own slot) := by
    rw [Scope.resolve_eq_own_iff]
    exact (ctx.inventory.slot?_index name).symm.trans slotFound
  have there : other.scope.resolve name = .ok (.external ctx.inventory.index slot) :=
    Scope.resolve_eq_external externals (dictionary_get?_eq_none absent) notEarlier slotFound
  refine ⟨ctx.scope.slotText (.own slot), ?_, ?_⟩
  · rw [Scope.hostForm_of_isIdentifier _ isName, here]
    rfl
  · have same : ctx.inventory.index.module = ctx.scope.module := rfl
    rw [Scope.hostForm_of_isIdentifier _ isName, there, ← Scope.slotText_external other.scope same]
    rfl

/-- What a module shares with another one through an index: the names of its scalars, which both
render alike. -/
structure Shares (ctx other : Context) (index : ScalarIndex) (name : String) : Prop where
  listed : (index.slot? name).isSome ↔ ∃ v ∈ ctx.inventory.scalars, sameName v.name name
  rendered : (index.slot? name).isSome → ∃ text, ctx.scope.hostForm .none name = .ok text ∧
    other.scope.hostForm .none name = .ok text

end Context

namespace Generator

open ForeignGlue.ScalarIndex (fileName)
open ForeignGlue.Session (loadIndex saveIndex)

variable {generator : Generator} {interface : Interface} {generated : GeneratedModule}

theorem index_of_generate (done : generator.generate interface = .ok generated) :
    generated.index = (generator.context interface).inventory.index := by
  obtain ⟨host, -, done⟩ := bind_eq_ok_iff.mp done
  obtain ⟨records, -, done⟩ := bind_eq_ok_iff.mp done
  obtain ⟨foreign, -, done⟩ := bind_eq_ok_iff.mp done
  cases done
  rfl

/-- **Indexes outlive a run.** An index of words, of a module that has a C name, is saved if its file is
written, and then comes back with the storage properties of all its scalars found anew; if its file is
not written, saving fails and changes nothing. The index of a generated module is one of them and comes
back as it was. A module that takes the index in as it comes back, and does not find a name before,
finds in it exactly the names of the scalars and renders them as they are rendered at home. -/
theorem index_outlives_run :
    (∀ (index : ScalarIndex) (directory : Directory),
      Expression.IsIdentifier index.module.toList →
      (∀ entry ∈ index.slots.entries, entry.2 < wordCount) →
      (∀ saved, directory.write? (fileName index.module) index.write = some saved →
        (saveIndex index).runOn directory = (.ok (fileName index.module), saved) ∧
        (loadIndex (fileName index.module)).runOn saved = (.ok index.annotate, saved)) ∧
      (directory.write? (fileName index.module) index.write = none →
        (saveIndex index).runOn directory =
          (.error (.fileAccess (fileName index.module)), directory))) ∧
    ∀ (generator : Generator) (interface : Interface) (generated : GeneratedModule)
      (directory saved : Directory),
      generator.generate interface = .ok generated →
      Expression.IsIdentifier generated.index.module.toList →
      (generator.context interface).inventory.scalars.length ≤ wordCount →
      directory.write? (fileName generated.index.module) generated.index.write = some saved →
      (saveIndex generated.index).runOn directory = (.ok (fileName generated.index.module), saved) ∧
      ∃ loaded, (loadIndex (fileName generated.index.module)).runOn saved = (.ok loaded, saved) ∧
        loaded = generated.index ∧
        ∀ (other : Context) (earlier later : List ScalarIndex) (name : String),
          other.externals = earlier ++ loaded :: later →
          Expression.IsIdentifier name.toList →
          (∀ v ∈ other.inventory.scalars, ¬sameName v.name name) →
          (∀ index ∈ earlier, index.slot? name = none) →
          (generator.context interface).Shares other loaded name := by
  have saves {index : ScalarIndex} {directory saved : Directory}
      (written : directory.write? (fileName index.module) index.write = some saved) :
      (saveIndex index).runOn directory = (.ok (fileName index.module), saved) := by
    rw [Session.runOn_saveIndex, written]
  refine ⟨fun index directory isName words => ⟨fun saved written => ?_, fun refused => ?_⟩, ?_⟩
  · exact ⟨saves written, Session.runOn_loadIndex_saved isName words written⟩
  · rw [Session.runOn_saveIndex, refused]
  · intro generator interface generated directory saved done isName size written
    have published := index_of_generate done
    have words : ∀ entry ∈ generated.index.slots.entries, entry.2 < wordCount := by
      rw [published]
      intro entry member
      exact Nat.lt_of_lt_of_le (SlotMap.lt_length_of_mem_entries member) size
    have loads := Session.runOn_loadIndex_saved isName words written
    have same : generated.index.annotate = generated.index := by
      rw [published]
      exact Inventory.annotate_index _
    rw [same] at loads
    refine ⟨saves written, generated.index, loads, rfl, ?_⟩
    rw [published]
    intro other earlier later name externals isName absent notEarlier
    exact ⟨Inventory.isSome_slot?_index_iff,
      Context.hostForm_through_index externals isName absent notEarlier⟩

/-- Two scalars of one name, with texts that have to be quoted, and one of them a pointer. -/
def twinInterface : Interface where
  module := "wxy"
  declarations :=
    [.variable { Variable.scalar "Nx" .integer "g" with comment := "größe \"n\\x\"\n" },
      .variable { Variable.scalar "NX" .integer "g" with
        initializer := some "/\t7/", dynamic := true, attributes := "fassign" }]

/-- The index of the scalars as they are declared, before their storage properties are found. -/
def twinIndex : ScalarIndex :=
  .ofScalars "wxy" twinInterface.visibleVariables

/-- A module without scalars of its own. -/
def borrower (index : ScalarIndex) : Context where
  inventory := .ofInterface { module := "uvw", declarations := [] }
  externals := [index]

/-- The index of the declared scalars comes back with the properties of the pointer, that of the
generated module as it was; the later of the two scalars is found from outside. -/
theorem index_outlives_run_twins :
    (∃ saved, (saveIndex twinIndex).runOn {} = (.ok "wxy.scalars", saved) ∧
      (loadIndex "wxy.scalars").runOn saved = (.ok twinIndex.annotate, saved)) ∧
    twinIndex.scalars.map Variable.flags = [[], []] ∧
    twinIndex.annotate.scalars.map Variable.flags = [[], [.dynamic, .reassigned]] ∧
    ∃ generated saved loaded, generate {} twinInterface = .ok generated ∧
      (saveIndex generated.index).runOn {} = (.ok "wxy.scalars", saved) ∧
      (loadIndex "wxy.scalars").runOn saved = (.ok loaded, saved) ∧ loaded = generated.index ∧
      (borrower loaded).scope.hostForm .none "nx" = .ok "*(long *)wxy_fscalars[1].data" := by
  have isName : Expression.IsIdentifier "wxy".toList := ⟨'w', ['x', 'y'], rfl, rfl, rfl⟩
  have writes (text : String) : ∃ saved, Directory.write? {} (fileName "wxy") text = some saved := by
    rw [Directory.write?_of_isPlain (ScalarIndex.isPlain_fileName isName), if_pos (by decide)]
    exact ⟨_, rfl⟩
  refine ⟨?_, rfl, by decide, ?_⟩
  · obtain ⟨saved, written⟩ := writes twinIndex.write
    exact ⟨saved, (index_outlives_run.1 twinIndex {} isName (by decide)).1 saved written⟩
  · have succeeds : (generate {} twinInterface).isOk = true := by decide +kernel
    obtain ⟨generated, done⟩ : ∃ generated, generate {} twinInterface = .ok generated := by
      cases result : generate {} twinInterface with
      | error error => rw [result] at succeeds; cases succeeds
      | ok generated => exact ⟨generated, rfl⟩
    have named : generated.index.module = "wxy" := by
      rw [index_of_generate done]
      rfl
    have size : (context {} twinInterface).inventory.scalars.length ≤ wordCount := by decide
    obtain ⟨saved, written⟩ := writes generated.index.write
    obtain ⟨saving, loaded, loading, same, shared⟩ := index_outlives_run.2 {} twinInterface generated
      {} saved done (by rw [named]; exact isName) size (by rw [named]; exact written)
    rw [named] at saving loading
    refine ⟨generated, saved, loaded, done, saving, loading, same, ?_⟩
    have shares := shared (borrower loaded) [] [] "nx" rfl ⟨'n', ['x'], rfl, rfl, rfl⟩ nofun nofun
    have found : (loaded.slot? "nx").isSome := shares.listed.mpr (by decide)
    obtain ⟨text, home, abroad⟩ := shares.rendered found
    have atHome : (context {} twinInterface).scope.hostForm .none "nx" =
        .ok "*(long *)wxy_fscalars[1].data" := by decide +kernel
    rw [atHome] at home
    rw [abroad, ← home]

end Generator

end ForeignGlue
