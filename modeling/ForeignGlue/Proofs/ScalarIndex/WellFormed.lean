/-
**Which loaded indexes can be relied on.**

An index is kept with its scalars and, apart from them, the slots of their names. A file may hold the
two in any state, and both are loaded as they are.

* `SlotMap.get?_eq_some_iff`, `SlotMap.eq_of_get?`: a map is what it finds;
* `ScalarIndex.IsWellFormed`: every name leads to a scalar of this name, and every scalar is found;
* `ScalarIndex.isWellFormed_iff_isFaithful`: without it, a bound may read another scalar than it names;
* `ScalarIndex.eq_ofScalars`: a well-formed index of different names is the index of its scalars;
* `Session.loads_iff`: every index that fits words is loaded from some file.
-/

import ForeignGlue.Proofs.ScalarIndex.Saving
import Mathlib.Data.List.Nodup

namespace ForeignGlue

open ForeignGlue.Text

/-- What a list of decoded items has comes from one of the items. -/
theorem exists_of_mem_mapM {α β : Type} {step : α → Option β} {items : List α} {results : List β}
    (all : items.mapM step = some results) :
    ∀ result ∈ results, ∃ item, step item = some result := by
  induction items generalizing results with
  | nil =>
      obtain rfl := Option.some.inj all
      nofun
  | cons item items ih =>
      rw [List.mapM_cons] at all
      obtain ⟨first, here, all⟩ := Option.bind_eq_some_iff.mp all
      obtain ⟨rest, later, all⟩ := Option.bind_eq_some_iff.mp all
      obtain rfl := Option.some.inj all
      exact List.forall_mem_cons.mpr ⟨⟨item, here⟩, ih later⟩

/-! ### Maps as what they find -/

namespace SlotMap

variable {map other : SlotMap} {key : String} {slot : Nat}

theorem nodup_keys (map : SlotMap) : (map.entries.map Prod.fst).Nodup := by
  refine List.pairwise_map.mpr (map.increasing.imp fun less same => ?_)
  rw [same] at less
  exact String.lt_irrefl _ less

theorem eq_of_mem_entries {first second : String × Nat} (firstMember : first ∈ map.entries)
    (secondMember : second ∈ map.entries) (sameKey : first.1 = second.1) : first = second :=
  List.inj_on_of_nodup_map map.nodup_keys firstMember secondMember sameKey

theorem get?_eq_some_iff : map.get? key = some slot ↔ (key, slot) ∈ map.entries := by
  constructor
  · intro found
    obtain ⟨entry, isFound, rfl⟩ := Option.map_eq_some_iff.mp found
    have named : entry.1 = key := by simpa using List.find?_some isFound
    rw [← named]
    exact List.mem_of_find?_eq_some isFound
  · intro member
    have isFound : (map.entries.find? fun entry => entry.1 == key).isSome :=
      List.find?_isSome.mpr ⟨_, member, beq_self_eq_true key⟩
    obtain ⟨entry, found⟩ := Option.isSome_iff_exists.mp isFound
    have named : entry.1 = key := by simpa using List.find?_some found
    have same : entry = (key, slot) :=
      eq_of_mem_entries (List.mem_of_find?_eq_some found) member named
    rw [get?, found, same]
    rfl

/-- Maps that find the same are the same. -/
theorem eq_of_get? (same : ∀ key slot, map.get? key = some slot ↔ other.get? key = some slot) :
    map = other := by
  have members : map.entries.Perm other.entries := by
    refine (List.perm_ext_iff_of_nodup (.of_map _ map.nodup_keys)
      (.of_map _ other.nodup_keys)).mpr fun entry => ?_
    rw [← get?_eq_some_iff, ← get?_eq_some_iff]
    exact same entry.1 entry.2
  have entries : map.entries = other.entries :=
    members.eq_of_pairwise (fun _ _ _ _ less more => absurd more (String.lt_asymm less))
      map.increasing other.increasing
  obtain ⟨_, _⟩ := map
  obtain ⟨_, _⟩ := other
  cases entries
  rfl

theorem mem_of_mem_ofList {entries : List (String × Nat)} {entry : String × Nat}
    (member : entry ∈ (ofList entries).entries) : entry ∈ entries := by
  induction entries using List.reverseRecOn with
  | nil => cases member
  | append_singleton entries last ih =>
      rw [ofList, List.foldl_append] at member
      rcases mem_insertEntry member with rfl | earlier
      · exact List.mem_append_right _ List.mem_cons_self
      · exact List.mem_append_left _ (ih earlier)

theorem fitsWords_of_ofJson? {value : Json} (decoded : ofJson? value = some map) :
    ∀ entry ∈ map.entries, entry.2 < wordCount := by
  obtain ⟨members, -, decoded⟩ := Option.bind_eq_some_iff.mp decoded
  obtain ⟨entries, each, decoded⟩ := Option.bind_eq_some_iff.mp decoded
  obtain rfl := Option.some.inj decoded
  intro entry member
  obtain ⟨⟨name, content⟩, here⟩ := exists_of_mem_mapM each entry (mem_of_mem_ofList member)
  obtain ⟨slot, isSlot, rfl⟩ := Option.map_eq_some_iff.mp here
  obtain ⟨natural, -, small⟩ := Option.bind_eq_some_iff.mp isSlot
  split at small
  · next bound =>
      obtain rfl := Option.some.inj small
      exact bound
  · cases small

end SlotMap

/-! ### Well-formed indexes -/

namespace ScalarIndex

variable {index : ScalarIndex}

/-- The names that an index has slots for are in lower case. -/
def HasLowerKeys (index : ScalarIndex) : Prop :=
  ∀ entry ∈ index.slots.entries, lower entry.1 = entry.1

/-- Every scalar's name has a slot. -/
def ListsAll (index : ScalarIndex) : Prop :=
  ∀ v ∈ index.scalars, (index.slots.get? (lower v.name)).isSome

/-- **A well-formed index**: its names lead to the scalars that have them, and to all of these. -/
structure IsWellFormed (index : ScalarIndex) : Prop where
  lowerCase : index.HasLowerKeys
  inTable : ∀ entry ∈ index.slots.entries, entry.2 < index.scalars.length
  named : ∀ entry ∈ index.slots.entries, ∀ v, index.scalar? entry.2 = some v →
    lower v.name = entry.1
  listed : index.ListsAll

/-- **Every name finds its own scalar**: where a name is resolved through the index, it is to a slot of
the table, and the scalar in this slot has the name. -/
def IsFaithful (index : ScalarIndex) : Prop :=
  ∀ (scope : Scope) (name : String) (slot : Nat), scope.resolve name = .ok (.external index slot) →
    slot < index.scalars.length ∧ ∃ v, index.scalar? slot = some v ∧ sameName v.name name

/-- No two scalars have the same name. -/
def HasDistinctNames (index : ScalarIndex) : Prop :=
  (index.scalars.map fun v => lower v.name).Nodup

theorem IsWellFormed.exists_scalar (wellFormed : index.IsWellFormed) {key : String} {slot : Nat}
    (found : index.slots.get? key = some slot) :
    ∃ v, index.scalar? slot = some v ∧ lower v.name = key := by
  have member := SlotMap.get?_eq_some_iff.mp found
  have held := List.getElem?_eq_getElem (wellFormed.inTable _ member)
  exact ⟨_, held, wellFormed.named _ member _ held⟩

/-- A module without scalars that looks names up in one index. -/
def onlyScope (index : ScalarIndex) : Scope :=
  ⟨"", .empty, [], [index]⟩

theorem resolve_onlyScope {name : String} {slot : Nat} (found : index.slot? name = some slot) :
    index.onlyScope.resolve name = .ok (.external index slot) := by
  have first : index.onlyScope.externals = [] ++ index :: [] := rfl
  exact Scope.resolve_eq_external first rfl nofun found

/-- **What well-formedness is about**: all names, in lower case, and each for its own scalar. -/
theorem isWellFormed_iff_isFaithful :
    index.IsWellFormed ↔ index.IsFaithful ∧ index.HasLowerKeys ∧ index.ListsAll := by
  constructor
  · intro wellFormed
    refine ⟨fun scope name slot resolved => ?_, wellFormed.lowerCase, wellFormed.listed⟩
    obtain ⟨-, found⟩ := Scope.mem_of_resolve_eq_external resolved
    obtain ⟨v, held, named⟩ := wellFormed.exists_scalar found
    exact ⟨(List.getElem?_eq_some_iff.mp held).1, v, held, sameName_iff.mpr named⟩
  · rintro ⟨faithful, lowerCase, listed⟩
    have leads (entry : String × Nat) (member : entry ∈ index.slots.entries) :
        entry.2 < index.scalars.length ∧
          ∃ v, index.scalar? entry.2 = some v ∧ sameName v.name entry.1 := by
      refine faithful index.onlyScope entry.1 entry.2 (resolve_onlyScope ?_)
      rw [slot?, lowerCase entry member]
      exact SlotMap.get?_eq_some_iff.mpr member
    refine ⟨lowerCase, fun entry member => (leads entry member).1, ?_, listed⟩
    intro entry member v held
    obtain ⟨-, other, otherHeld, named⟩ := leads entry member
    obtain rfl := Option.some.inj (held.symm.trans otherHeld)
    rw [sameName_iff.mp named, lowerCase entry member]

theorem isWellFormed_ofScalars (module : String) (scalars : List Variable) :
    (ofScalars module scalars).IsWellFormed := by
  have leads (entry : String × Nat) (member : entry ∈ (SlotMap.ofScalars scalars).entries) :
      ∃ v, scalars[entry.2]? = some v ∧ lower v.name = entry.1 :=
    SlotMap.getElem?_of_get? (SlotMap.get?_eq_some_iff.mpr member)
  refine ⟨fun entry member => ?_, fun entry => SlotMap.lt_length_of_mem_entries, ?_, ?_⟩
  · obtain ⟨v, -, named⟩ := leads entry member
    rw [← named]
    exact lower_lower v.name
  · intro entry member v held
    obtain ⟨other, otherHeld, named⟩ := leads entry member
    obtain rfl := Option.some.inj (held.symm.trans otherHeld)
    exact named
  · intro v member
    exact SlotMap.isSome_get?_iff.mpr ⟨v, member, rfl⟩

/-- **A well-formed index of different names is the index of its scalars.** There is one slot with a
scalar of a name, and either map has it. -/
theorem eq_ofScalars (wellFormed : index.IsWellFormed) (distinct : index.HasDistinctNames) :
    index = .ofScalars index.module index.scalars := by
  have made := isWellFormed_ofScalars index.module index.scalars
  have unique {key : String} {slot place : Nat} {v w : Variable}
      (held : index.scalars[slot]? = some v) (otherHeld : index.scalars[place]? = some w)
      (named : lower v.name = key) (otherNamed : lower w.name = key) : slot = place := by
    have bound := (List.getElem?_eq_some_iff.mp held).1
    refine (List.getElem?_inj (by simpa using bound) distinct).mp ?_
    rw [List.getElem?_map, List.getElem?_map, held, otherHeld, Option.map_some, Option.map_some,
      named, otherNamed]
  have slots : index.slots = .ofScalars index.scalars := by
    refine SlotMap.eq_of_get? fun key slot => ⟨fun found => ?_, fun found => ?_⟩
    · obtain ⟨v, held, named⟩ := wellFormed.exists_scalar found
      have listed := made.listed v (List.mem_of_getElem? held)
      obtain ⟨place, otherFound⟩ := Option.isSome_iff_exists.mp listed
      obtain ⟨w, otherHeld, otherNamed⟩ := made.exists_scalar otherFound
      rw [unique held otherHeld named (otherNamed.trans named), ← named]
      exact otherFound
    · obtain ⟨v, held, named⟩ := made.exists_scalar found
      have listed := wellFormed.listed v (List.mem_of_getElem? held)
      obtain ⟨place, otherFound⟩ := Option.isSome_iff_exists.mp listed
      obtain ⟨w, otherHeld, otherNamed⟩ := wellFormed.exists_scalar otherFound
      rw [unique held otherHeld named (otherNamed.trans named), ← named]
      exact otherFound
  rw [ofScalars, ← slots]

/-- The slots of an index that is read are words. -/
theorem fitsWords_of_read {text : String} (read : ScalarIndex.read text = some index) :
    ∀ entry ∈ index.slots.entries, entry.2 < wordCount := by
  obtain ⟨value, -, decoded⟩ := Option.bind_eq_some_iff.mp read
  obtain ⟨fields, -, decoded⟩ := Option.bind_eq_some_iff.mp decoded
  split at decoded
  · obtain ⟨module, -, decoded⟩ := Option.bind_eq_some_iff.mp decoded
    obtain ⟨slots, slotsDecoded, decoded⟩ := Option.bind_eq_some_iff.mp decoded
    obtain ⟨scalars, -, decoded⟩ := Option.bind_eq_some_iff.mp decoded
    obtain rfl := Option.some.inj decoded
    obtain ⟨field, -, slotsDecoded⟩ := Option.bind_eq_some_iff.mp slotsDecoded
    exact SlotMap.fitsWords_of_ofJson? slotsDecoded
  · cases decoded

end ScalarIndex

/-! ### What is loaded -/

namespace Session

variable {index : ScalarIndex}

theorem read_of_runOn_loadIndex {path : String} {directory after : Directory}
    (loaded : (loadIndex path).runOn directory = (.ok index, after)) :
    ∃ text held, directory.read? path = some text ∧ ScalarIndex.read text = some held ∧
      held.annotate = index := by
  rw [loadIndex] at loaded
  split at loaded
  · cases loaded
  · rw [runOn_bind, runOn_readFile] at loaded
    cases there : directory.read? path with
    | none =>
        rw [there] at loaded
        cases loaded
    | some text =>
        rw [there] at loaded
        dsimp only at loaded
        split at loaded
        · next held read => exact ⟨text, held, rfl, read, Except.ok.inj (Prod.mk.inj loaded).1⟩
        · cases loaded

/-- **Whatever fits words is loaded** from some file, once it is annotated: its names and scalars are
not looked at. -/
theorem loads_iff :
    (∃ path directory after, (loadIndex path).runOn directory = (.ok index, after)) ↔
      index.annotate = index ∧ ∀ entry ∈ index.slots.entries, entry.2 < wordCount := by
  constructor
  · rintro ⟨path, directory, after, loaded⟩
    obtain ⟨text, held, -, read, rfl⟩ := read_of_runOn_loadIndex loaded
    have words := ScalarIndex.fitsWords_of_read read
    exact ⟨held.annotate_annotate, words⟩
  · rintro ⟨annotated, words⟩
    have plain : Directory.IsPlain "m.scalars" := ⟨by decide, by decide, by decide, by decide⟩
    have there : (Directory.set {} ["m.scalars"] (.file index.write)).read? "m.scalars" =
        some index.write :=
      Directory.read?_set_of_isPlain plain (by decide) _
    have loaded := runOn_loadIndex (by decide) there (ScalarIndex.read_write words)
    rw [index.annotate_unannotated, annotated] at loaded
    exact ⟨"m.scalars", _, _, loaded⟩

end Session

/-! ### The index of a file -/

namespace ScalarIndex

/-- **A loaded index is as well formed as its file.** All annotated indexes whose slots are words can be
loaded, so that nothing else is known of a loaded one. It is well formed exactly if its names are in
lower case, all scalars are found, and a name that is resolved through it leads to a scalar of this name,
in the table that the C text then reads. The index that is made from scalars is well formed, and if their
names are different it is the only one. -/
theorem isWellFormed_loaded_iff (index : ScalarIndex) :
    ((∃ path directory after, (Session.loadIndex path).runOn directory = (.ok index, after)) ↔
      index.annotate = index ∧ ∀ entry ∈ index.slots.entries, entry.2 < wordCount) ∧
    (index.IsWellFormed ↔ index.IsFaithful ∧ index.HasLowerKeys ∧ index.ListsAll) ∧
    (∀ (scope : Scope) (name : String) (slot : Nat), Expression.IsIdentifier name.toList →
      scope.resolve name = .ok (.external index slot) →
      scope.hostForm .none name = .ok s!"*(long *){index.tableName}[{slot}].data") ∧
    (∀ module scalars, (ofScalars module scalars).IsWellFormed) ∧
    (index.HasDistinctNames →
      (index.IsWellFormed ↔ index = .ofScalars index.module index.scalars)) := by
  refine ⟨Session.loads_iff, isWellFormed_iff_isFaithful, fun scope name slot isName resolved => ?_,
    isWellFormed_ofScalars,
    fun distinct => ⟨fun wellFormed => eq_ofScalars wellFormed distinct, ?_⟩⟩
  · rw [scope.hostForm_of_isIdentifier isName, resolved]
    rfl
  · intro same
    rw [same]
    exact isWellFormed_ofScalars _ _

/-- An index whose names come in another order than its scalars. -/
def reordered : ScalarIndex where
  module := "base"
  slots := .ofList [("m", 1), ("n", 0)]
  scalars := [Variable.scalar "N" .integer "sizes", Variable.scalar "m" .integer "sizes"]

theorem isWellFormed_loaded_iff_reordered :
    (∃ path directory after, (Session.loadIndex path).runOn directory = (.ok reordered, after)) ∧
      reordered.HasDistinctNames ∧ reordered.IsWellFormed := by
  have words : ∀ entry ∈ reordered.slots.entries, entry.2 < wordCount := by decide
  have distinct : reordered.HasDistinctNames := by
    unfold HasDistinctNames
    decide
  have published : reordered = .ofScalars reordered.module reordered.scalars := by decide
  obtain ⟨loads, -, -, -, exactly⟩ := isWellFormed_loaded_iff reordered
  exact ⟨loads.mpr ⟨by decide, words⟩, distinct, (exactly distinct).mpr published⟩

/-- The file of a module without scalars that still has a name. -/
def staleText : String :=
  "\x7b\"module\":\"base\",\"index\":\x7b\"n\":3\x7d,\"scalars\":[]\x7d"

/-- It is loaded, and the C text reads a slot that the table does not have. -/
theorem stale_index_loaded :
    ∃ index : ScalarIndex,
      (Session.loadIndex "base.scalars").runOn (.set {} ["base.scalars"] (.file staleText)) =
        (.ok index, .set {} ["base.scalars"] (.file staleText)) ∧
      index.scalars = [] ∧ ¬index.IsWellFormed ∧
      (Generator.borrower index).scope.hostForm .none "n" =
        .ok "*(long *)base_fscalars[3].data" := by
  have read : ScalarIndex.read staleText = some ⟨"base", .ofList [("n", 3)], []⟩ := by
    decide +kernel
  refine ⟨⟨"base", .ofList [("n", 3)], []⟩, ?_, rfl, fun wellFormed => ?_, by decide +kernel⟩
  · exact Session.runOn_loadIndex (by decide) (by decide) read
  · exact absurd (wellFormed.inTable ("n", 3) (by decide)) (by decide)

end ScalarIndex

end ForeignGlue
