/-
**Which scalar a name finds.**

The slots of a table are kept by the names of its scalars in lower case, in a map that is filled from
the first scalar to the last:

* `SlotMap.get?_ofScalars_concat`: a later scalar of the same name takes the place of an earlier one;
* `SlotMap.getElem?_of_get?`: the slot that is found is one of the table, and its scalar has the name;
* `SlotMap.isSome_get?_iff`: every scalar's name is found;
* `Scope.resolve_eq_own_iff`, `Scope.resolve_eq_external`, `Scope.resolve_eq_error_iff`: the three
  outcomes of a search through the module's own table and those of external modules, and
  `Scope.mem_of_resolve_eq_external`: where an external slot comes from;
* `Scope.hostForm_of_isIdentifier`: a name by itself is rendered as the slot it resolves to.
-/

import ForeignGlue.Context
import ForeignGlue.Proofs.HostForm.Marks
import Mathlib.Data.List.Induction
import Mathlib.Data.List.TakeWhile

namespace ForeignGlue

open ForeignGlue.Text

theorem Text.sameName_iff {s t : String} : sameName s t ↔ lower s = lower t :=
  beq_iff_eq

theorem Text.lower_lower (s : String) : lower (lower s) = lower s := by
  refine String.toList_inj.mp ?_
  rw [toList_lower, toList_lower, List.map_map]
  exact List.map_congr_left fun c _ => toLower_toLower c

theorem Text.lower_append (s t : String) : lower (s ++ t) = lower s ++ lower t := by
  refine String.toList_inj.mp ?_
  rw [toList_lower, String.toList_append, String.toList_append, List.map_append, toList_lower,
    toList_lower]

namespace SlotMap

theorem get?_empty (key : String) : SlotMap.empty.get? key = none :=
  rfl

theorem ofScalars_concat (scalars : List Variable) (last : Variable) :
    SlotMap.ofScalars (scalars ++ [last]) =
      (SlotMap.ofScalars scalars).insert (lower last.name) scalars.length := by
  rw [ofScalars, ofList, List.mapIdx_append, List.foldl_append]
  show SlotMap.insert _ (lower last.name) (0 + scalars.length) = _
  rw [Nat.zero_add]
  rfl

/-- **The last scalar of a name has its slot.** -/
theorem get?_ofScalars_concat (scalars : List Variable) (last : Variable) (key : String) :
    (SlotMap.ofScalars (scalars ++ [last])).get? key =
      if lower last.name = key then some scalars.length
      else (SlotMap.ofScalars scalars).get? key := by
  rw [ofScalars_concat, get?_insert]

variable {scalars : List Variable} {key : String}

/-- **The slot of a name** is one of the table, and the scalar in it has the name. -/
theorem getElem?_of_get? {slot : Nat} (found : (SlotMap.ofScalars scalars).get? key = some slot) :
    ∃ v, scalars[slot]? = some v ∧ lower v.name = key := by
  induction scalars using List.reverseRecOn with
  | nil => cases found
  | append_singleton scalars last ih =>
      rw [get?_ofScalars_concat] at found
      split at found
      · next named =>
          cases found
          exact ⟨last, List.getElem?_concat_length, named⟩
      · obtain ⟨v, listed, named⟩ := ih found
        refine ⟨v, ?_, named⟩
        rw [List.getElem?_append_left (List.getElem?_eq_some_iff.mp listed).1]
        exact listed

/-- Every slot is one of the scalars. -/
theorem lt_length_of_mem_entries {entry : String × Nat}
    (member : entry ∈ (SlotMap.ofScalars scalars).entries) : entry.2 < scalars.length := by
  induction scalars using List.reverseRecOn with
  | nil => cases member
  | append_singleton scalars last ih =>
      rw [ofScalars_concat] at member
      rw [List.length_append, List.length_singleton]
      rcases mem_insertEntry member with rfl | earlier
      · exact Nat.lt_succ_self _
      · exact Nat.lt_succ_of_lt (ih earlier)

/-- **Every name of a scalar is found**, and no other. -/
theorem isSome_get?_iff :
    ((SlotMap.ofScalars scalars).get? key).isSome ↔ ∃ v ∈ scalars, lower v.name = key := by
  induction scalars using List.reverseRecOn with
  | nil => simp [ofScalars, ofList, get?_empty]
  | append_singleton scalars last ih =>
      rw [get?_ofScalars_concat]
      split
      · next named => simp [named]
      · next other =>
          rw [ih]
          simp [or_and_right, exists_or, other]

end SlotMap

/-- A module finds its scalars where others find them through its index. -/
theorem Inventory.slot?_index (inventory : Inventory) (name : String) :
    inventory.index.slot? name = inventory.slot? name := by
  rw [Inventory.slot?, inventory.dictionary_eq]
  rfl

/-! ### Tables of several modules -/

namespace Scope

variable {scope : Scope} {name : String} {slot : Nat}

/-- A name is one of the module's own exactly if the dictionary has it: what an external table has is no
slot of the own one. -/
theorem resolve_eq_own_iff :
    scope.resolve name = .ok (.own slot) ↔ scope.dictionary.get? (lower name) = some slot := by
  rw [resolve]
  cases scope.dictionary.get? (lower name) with
  | some found => simp
  | none =>
      cases searched : scope.externals.findSome? fun index =>
          (index.slot? name).map (Slot.external index) with
      | none => simp
      | some other =>
          obtain ⟨index, -, found⟩ := List.exists_of_findSome?_eq_some searched
          obtain ⟨_, -, rfl⟩ := Option.map_eq_some_iff.mp found
          simp

/-- The first external module that has a name decides, if the module itself does not have it. -/
theorem resolve_eq_external {earlier later : List ScalarIndex} {index : ScalarIndex}
    (externals : scope.externals = earlier ++ index :: later)
    (notOwn : scope.dictionary.get? (lower name) = none)
    (notEarlier : ∀ other ∈ earlier, other.slot? name = none)
    (found : index.slot? name = some slot) :
    scope.resolve name = .ok (.external index slot) := by
  have none : earlier.findSome? (fun index => (index.slot? name).map (Slot.external index)) =
      none := by
    rw [List.findSome?_eq_none_iff]
    intro other member
    rw [notEarlier other member]
    rfl
  rw [resolve, notOwn, externals, List.findSome?_append, none, List.findSome?_cons, found]
  rfl

/-- A slot of an external table is the one that the index has for the name. -/
theorem mem_of_resolve_eq_external {index : ScalarIndex}
    (resolved : scope.resolve name = .ok (.external index slot)) :
    index ∈ scope.externals ∧ index.slot? name = some slot := by
  rw [resolve] at resolved
  split at resolved
  · cases resolved
  · split at resolved
    · next found =>
        obtain rfl := Except.ok.inj resolved
        obtain ⟨other, listed, isOther⟩ := List.exists_of_findSome?_eq_some found
        obtain ⟨place, itsPlace, same⟩ := Option.map_eq_some_iff.mp isOther
        obtain ⟨rfl, rfl⟩ := Slot.external.inj same
        exact ⟨listed, itsPlace⟩
    · cases resolved

/-- A slot is read in the same way from within its module and from outside. -/
theorem slotText_external (other : Scope) {index : ScalarIndex}
    (same : index.module = scope.module) (slot : Nat) :
    other.slotText (.external index slot) = scope.slotText (.own slot) := by
  have cut : "_fscalars[" = "_fscalars" ++ "[" := rfl
  rw [slotText, slotText, ScalarIndex.tableName, same, cut]
  simp only [toString, String.append_assoc]

/-- **A name does not resolve** exactly if neither the module nor an external has it. -/
theorem resolve_eq_error_iff {error : GenerationError} :
    scope.resolve name = .error error ↔ error = .unresolved name ∧
      scope.dictionary.get? (lower name) = none ∧
      ∀ index ∈ scope.externals, index.slot? name = none := by
  rw [resolve]
  cases scope.dictionary.get? (lower name) with
  | some found => simp
  | none =>
      cases searched : scope.externals.findSome? fun index =>
          (index.slot? name).map (Slot.external index) with
      | none =>
          simp only [List.findSome?_eq_none_iff, Option.map_eq_none_iff] at searched
          simp only [Except.error.injEq, true_and]
          exact ⟨fun same => ⟨same.symm, searched⟩, fun known => known.1.symm⟩
      | some other =>
          obtain ⟨index, member, found⟩ := List.exists_of_findSome?_eq_some searched
          obtain ⟨slot, found, rfl⟩ := Option.map_eq_some_iff.mp found
          refine iff_of_false nofun ?_
          rintro ⟨-, -, never⟩
          rw [never index member] at found
          cases found

end Scope

/-! ### A name by itself -/

/-- No name starts with a digit: of the blocks of decimal digits only the first is in ASCII. -/
theorem Text.not_isDecimalDigit_of_isNameStart {c : Char} (start : isNameStart c) :
    isDecimalDigit c = false := by
  have zeros : ∀ first ∈ decimalZeros, first = 0x30 ∨ 0x660 ≤ first := by decide
  rw [← Bool.not_eq_true, isDecimalDigit, List.any_eq_true]
  rintro ⟨first, listed, inBlock⟩
  simp only [Bool.and_eq_true, decide_eq_true_eq] at inBlock
  have ascii := zeros first listed
  rcases (isNameStart_iff c).mp start with range | rfl
  · omega
  · have underscore : '_'.toNat = 0x5F := rfl
    omega

/-- A name by itself is one token. -/
theorem Expression.tokens_of_isIdentifier {name : String} (isName : IsIdentifier name.toList) :
    tokens name = [⟨.name, name.toList⟩] := by
  obtain ⟨c, cs, spelled, start, inside⟩ := isName
  have noDigit : digitRun (c :: cs) = 0 := by
    rw [digitRun, List.takeWhile_cons_of_neg]
    · rfl
    · rw [Bool.not_eq_true]
      exact not_isDecimalDigit_of_isNameStart start
  have noPoint : pointLength (c :: cs) = 0 := by
    refine if_neg fun point => ?_
    rw [beq_iff_eq.mp point] at start
    exact absurd start (by decide)
  have noNumber : numberLength (c :: cs) = 0 := by
    rw [numberLength, mantissaLength, if_pos noDigit, noPoint]
    rfl
  have whole : nameLength (c :: cs) = cs.length + 1 := by
    rw [nameLength, if_pos start, List.takeWhile_eq_self_iff.mpr (List.all_eq_true.mp inside)]
  rw [tokens, spelled, tokensFrom, if_neg (not_not.mpr noNumber), if_pos (by omega), whole,
    tokensFrom_eq_drop]
  simp [tokensFrom]

theorem Scope.hostForm_of_isIdentifier (scope : Scope) {name : String}
    (isName : Expression.IsIdentifier name.toList) :
    scope.hostForm .none name = (scope.resolve name).map scope.slotText := by
  have single : scope.piece .none ⟨.name, name.toList⟩ = (scope.resolve name).map Piece.slot := by
    rw [piece, Expression.Token.text, String.ofList_toList]
    rfl
  rw [hostForm, pieces, Expression.tokens_of_isIdentifier isName, List.map_singleton, single]
  cases scope.resolve name with
  | error error => rfl
  | ok slot => simp [collect, Except.map, piecesText, pieceText, String.join]

end ForeignGlue
