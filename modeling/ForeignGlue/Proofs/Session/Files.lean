/-
**Files that are written and read.**

A plain name leads from a directory to an entry of the directory itself:

* `Directory.write?_of_isPlain`: a file of this name can be written unless the name is too long or a
  folder stands in its place;
* `Directory.read?_set_of_isPlain`: what is written is what is read.

An action is followed part by part (`Session.runOn_bind`): after a part that fails nothing more is
done, and the directory stays as it is then.
-/

import ForeignGlue.Session

namespace ForeignGlue

open ForeignGlue.Text

/-! ### Plain names in a directory -/

namespace Directory

/-- A name that leads from a directory to one of its entries. -/
structure IsPlain (name : String) : Prop where
  noSlash : '/' ∉ name.toList
  noNul : '\x00' ∉ name.toList
  moves : isStay name = false
  descends : isUp name = false

variable {directory : Directory} {name : String}

theorem splitAtChars_of_forall {p : Char → Bool} {cs : List Char} (none : ∀ c ∈ cs, p c = false) :
    splitAtChars p cs = [cs] := by
  induction cs with
  | nil => rfl
  | cons c cs ih =>
      rw [splitAtChars, none c List.mem_cons_self,
        ih fun other member => none other (List.mem_cons_of_mem c member)]
      rfl

theorem pathNames_of_isPlain (plain : IsPlain name) : pathNames name = [name] := by
  rw [pathNames, splitAtChars_of_forall, List.map_singleton, String.ofList_toList]
  intro c member
  rw [beq_eq_false_iff_ne]
  rintro rfl
  exact plain.noSlash member

theorem isFolderPath_of_isPlain (plain : IsPlain name) : isFolderPath name = false := by
  rw [isFolderPath, pathNames_of_isPlain plain]
  simp [plain.moves, plain.descends]

theorem isFolder_nil : directory.isFolder [] = true :=
  rfl

/-- **A plain name leads to itself**, unless it is too long. -/
theorem resolve_of_isPlain (plain : IsPlain name) :
    directory.resolve name = if byteSize name.toList ≤ longestName then some [name] else none := by
  have step : directory.step [] name =
      if byteSize name.toList ≤ longestName then some [name] else none := by
    rw [Directory.step, plain.moves, isFolder_nil, plain.descends]
    rfl
  have follow : (pathNames name).foldlM directory.step [] = directory.step [] name := by
    rw [pathNames_of_isPlain plain, List.foldlM_cons]
    exact bind_pure _
  rw [resolve, follow, step]
  by_cases fits : byteSize name.toList ≤ longestName
  · have short : byteSize name.toList ≤ longestPath := Nat.le_trans fits (by decide)
    have isPath : isPath name = true := by
      have relative : name.toList.head? ≠ some '/' := fun first =>
        plain.noSlash (List.mem_of_head? first)
      simp [Directory.isPath, short, plain.noNul, relative]
    rw [if_pos isPath]
  · rw [if_neg fits]
    exact ite_self none

theorem parent_singleton (plain : IsPlain name) : parent [name] = [] := by
  rw [parent, List.all_cons, plain.descends]
  rfl

/-- Whether a file of a plain name can be written: the name is not too long, and no folder stands in
its place. -/
def Takes (directory : Directory) (name : String) : Prop :=
  byteSize name.toList ≤ longestName ∧ directory.isFolder [name] = false

instance : Decidable (directory.Takes name) :=
  inferInstanceAs (Decidable (_ ∧ _))

/-- **Writing under a plain name.** -/
theorem write?_of_isPlain (plain : IsPlain name) (text : String) :
    directory.write? name text =
      if directory.Takes name then some (directory.set [name] (.file text)) else none := by
  rw [write?, isFolderPath_of_isPlain plain, resolve_of_isPlain plain]
  by_cases fits : byteSize name.toList ≤ longestName
  · rw [if_pos fits]
    show (if (directory.isFolder [name] || !directory.isFolder (parent [name])) = true then none
      else some (directory.set [name] (.file text))) = _
    rw [parent_singleton plain, isFolder_nil]
    by_cases folder : directory.isFolder [name] = true
    · have refuses : ¬directory.Takes name := fun takes => by simp [takes.2] at folder
      rw [if_neg refuses, folder]
      rfl
    · rw [Bool.not_eq_true] at folder
      have takes : directory.Takes name := ⟨fits, folder⟩
      rw [if_pos takes, folder]
      rfl
  · have refuses : ¬directory.Takes name := fun takes => fits takes.1
    rw [if_neg fits, if_neg refuses]
    rfl

/-- What was written is found. -/
theorem find?_set (place : List String) (entry : Entry) :
    ((directory.set place entry).entries.find? fun existing => existing.1 == place) =
      some (place, entry) := by
  by_cases there : directory.entries.any fun existing => existing.1 == place
  · rw [set, if_pos there]
    show (directory.entries.map fun existing =>
      if existing.1 == place then (place, entry) else existing).find? _ = _
    generalize directory.entries = entries at there ⊢
    induction entries with
    | nil => cases there
    | cons head entries ih =>
        by_cases same : head.1 = place
        · rw [List.map_cons, if_pos (beq_iff_eq.mpr same), List.find?_cons_of_pos]
          exact beq_self_eq_true place
        · have other : (head.1 == place) = false := beq_eq_false_iff_ne.mpr same
          rw [List.any_cons, other, Bool.false_or] at there
          rw [List.map_cons, other, if_neg Bool.false_ne_true, List.find?_cons_of_neg, ih there]
          rw [other]
          exact Bool.false_ne_true
  · have none : directory.entries.find? (fun existing => existing.1 == place) = none := by
      rw [List.find?_eq_none]
      intro existing member isThere
      exact there (List.any_eq_true.mpr ⟨existing, member, isThere⟩)
    rw [set, if_neg there]
    simp [List.find?_append, none]

theorem fileName?_of_isPlain (plain : IsPlain name) : fileName? name = some name := by
  rw [fileName?, pathNames_of_isPlain plain, List.filter_cons_of_pos]
  · show (if isUp name = true then none else some name) = some name
    rw [plain.descends]
    rfl
  · rw [plain.moves]
    rfl

/-- **What is written is what is read.** -/
theorem read?_set_of_isPlain (plain : IsPlain name)
    (fits : byteSize name.toList ≤ longestName) (text : String) :
    (directory.set [name] (.file text)).read? name = some text := by
  have found : (directory.set [name] (.file text)).get? [name] = some (.file text) := by
    rw [get?, find?_set, List.all_cons, plain.descends]
    rfl
  rw [read?, isFolderPath_of_isPlain plain, resolve_of_isPlain plain, if_pos fits,
    if_neg Bool.false_ne_true, Option.bind_some, found]

end Directory

/-! ### Actions -/

namespace Session

variable {α β : Type} {directory : Directory}

/-- An action that fails stops what follows, and the directory stays as it left it. -/
theorem runOn_bind (action : Session α) (next : α → Session β) :
    (action >>= next).runOn directory =
      match action.runOn directory with
      | (.ok value, after) => (next value).runOn after
      | (.error error, after) => (.error error, after) := by
  show (match action directory with
    | (result, after) => (ExceptT.bindCont next result) after) = _
  rw [show action.runOn directory = action directory from rfl]
  rcases action directory with ⟨_ | _, after⟩ <;> rfl

theorem runOn_get : (get : Session Directory).runOn directory = (.ok directory, directory) :=
  rfl

/-- A file that cannot be written changes nothing. -/
theorem runOn_writeFile (path text : String) :
    (writeFile path text).runOn directory =
      match directory.write? path text with
      | some saved => (.ok (), saved)
      | none => (.error (.fileAccess path), directory) := by
  rw [writeFile, change, runOn_bind, runOn_get]
  dsimp only
  cases directory.write? path text with
  | none => rfl
  | some saved => rfl

theorem runOn_readFile (path : String) :
    (readFile path).runOn directory =
      match directory.read? path with
      | some text => (.ok text, directory)
      | none => (.error (.fileAccess path), directory) := by
  rw [readFile, runOn_bind, runOn_get]
  dsimp only
  cases directory.read? path with
  | none => rfl
  | some text => rfl

end Session

end ForeignGlue
