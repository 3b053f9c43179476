/-
**Three ways to find a scalar.**

A module looks its scalars up in a dictionary, other modules look them up in the index that it publishes,
and at run time they are looked up in its descriptor table. The first two are maps that later scalars
write over, and the third is searched from the front. So the first two find the last scalar of a name and
the third finds the first one, and all three agree exactly if no name is there twice.

* `SlotMap.get?_ofScalars_eq_some_iff`: the map has the slot of the last scalar of a name;
* `Context.scalarSlot?_eq_some_iff`: the table gives the slot of the first one;
* `IsNamed.unique`, `Context.scalarSlot?_eq_slot?_iff`: when the first is the last;
* `lookups_agree_iff`: the three lookups of a module.
-/

import ForeignGlue.Proofs.Inventory.Timers
import ForeignGlue.Proofs.ScalarIndex.Saving

namespace ForeignGlue

open ForeignGlue.Text

/-! ### The first and the last scalar of a name -/

/-- The scalar in a slot has a name, in any case. -/
def IsNamed (scalars : List Variable) (name : String) (slot : Nat) : Prop :=
  ∃ v, scalars[slot]? = some v ∧ sameName v.name name

/-- The slot of the last scalar of a name. -/
structure IsLastNamed (scalars : List Variable) (name : String) (slot : Nat) : Prop where
  named : IsNamed scalars name slot
  last : ∀ other, IsNamed scalars name other → other ≤ slot

/-- The slot of the first scalar of a name. -/
structure IsFirstNamed (scalars : List Variable) (name : String) (slot : Nat) : Prop where
  named : IsNamed scalars name slot
  first : ∀ other, IsNamed scalars name other → slot ≤ other

variable {scalars : List Variable} {name : String} {slot : Nat}

theorem IsLastNamed.unique {other : Nat} (isLast : IsLastNamed scalars name slot)
    (otherLast : IsLastNamed scalars name other) : slot = other :=
  Nat.le_antisymm (otherLast.last slot isLast.named) (isLast.last other otherLast.named)

theorem IsNamed.lt_length (named : IsNamed scalars name slot) : slot < scalars.length := by
  obtain ⟨v, listed, -⟩ := named
  exact (List.getElem?_eq_some_iff.mp listed).1

theorem isNamed_concat_iff {last : Variable} : IsNamed (scalars ++ [last]) name slot ↔
    IsNamed scalars name slot ∨ slot = scalars.length ∧ sameName last.name name := by
  unfold IsNamed
  rcases Nat.lt_trichotomy slot scalars.length with inside | rfl | beyond
  · rw [List.getElem?_append_left inside]
    simp [Nat.ne_of_lt inside]
  · simp
  · rw [List.getElem?_eq_none (by simp; omega), List.getElem?_eq_none (by omega)]
    simp [Nat.ne_of_gt beyond]

/-- What the map finds is the last scalar of a name. -/
theorem SlotMap.isLastNamed_of_get? (found : (SlotMap.ofScalars scalars).get? (lower name) = some slot) :
    IsLastNamed scalars name slot := by
  induction scalars using List.reverseRecOn with
  | nil => cases found
  | append_singleton scalars last ih =>
      rw [get?_ofScalars_concat] at found
      split at found
      · next named =>
          cases found
          refine ⟨isNamed_concat_iff.mpr (.inr ⟨rfl, sameName_iff.mpr named⟩), fun other otherNamed => ?_⟩
          rcases isNamed_concat_iff.mp otherNamed with earlier | ⟨rfl, -⟩
          · exact Nat.le_of_lt earlier.lt_length
          · exact Nat.le_refl _
      · next unnamed =>
          obtain ⟨named, isLast⟩ := ih found
          refine ⟨isNamed_concat_iff.mpr (.inl named), fun other otherNamed => ?_⟩
          rcases isNamed_concat_iff.mp otherNamed with earlier | ⟨-, same⟩
          · exact isLast other earlier
          · exact absurd (sameName_iff.mp same) unnamed

/-- **The map finds the last scalar** of a name. -/
theorem SlotMap.get?_ofScalars_eq_some_iff :
    (SlotMap.ofScalars scalars).get? (lower name) = some slot ↔ IsLastNamed scalars name slot := by
  refine ⟨isLastNamed_of_get?, fun isLast => ?_⟩
  obtain ⟨v, listed, named⟩ := isLast.named
  have isThere : ((SlotMap.ofScalars scalars).get? (lower name)).isSome :=
    isSome_get?_iff.mpr ⟨v, List.mem_of_getElem? listed, sameName_iff.mp named⟩
  obtain ⟨other, found⟩ := Option.isSome_iff_exists.mp isThere
  rw [found, isLast.unique (isLastNamed_of_get? found)]

namespace Inventory

variable (inventory : Inventory)

theorem slot?_eq_some_iff :
    inventory.slot? name = some slot ↔ IsLastNamed inventory.scalars name slot := by
  rw [Inventory.slot?, inventory.dictionary_eq]
  exact SlotMap.get?_ofScalars_eq_some_iff

theorem slot?_eq_none_iff :
    inventory.slot? name = none ↔ ∀ v ∈ inventory.scalars, ¬ sameName v.name name := by
  rw [Inventory.slot?, inventory.dictionary_eq, ← Option.not_isSome_iff_eq_none,
    SlotMap.isSome_get?_iff]
  simp only [sameName_iff, not_exists, not_and]

end Inventory

/-- **The table gives the first scalar** of a name. -/
theorem Context.scalarSlot?_eq_some_iff (ctx : Context) :
    ctx.package.scalarSlot? name = some slot ↔ IsFirstNamed ctx.inventory.scalars name slot := by
  rw [Package.scalarSlot?, package, List.findIdx?_map, List.findIdx?_eq_some_iff_getElem]
  constructor
  · rintro ⟨inside, named, earlier⟩
    refine ⟨⟨_, List.getElem?_eq_getElem inside, named⟩, fun other otherNamed => ?_⟩
    by_contra before
    obtain ⟨v, listed, same⟩ := otherNamed
    obtain ⟨there, rfl⟩ := List.getElem?_eq_some_iff.mp listed
    exact earlier other (by omega) same
  · rintro ⟨⟨v, listed, named⟩, first⟩
    obtain ⟨inside, rfl⟩ := List.getElem?_eq_some_iff.mp listed
    refine ⟨inside, named, fun other before same => ?_⟩
    have later := first other ⟨_, List.getElem?_eq_getElem (by omega), same⟩
    omega

/-! ### When the first is the last -/

theorem isNamed_iff_getElem? : IsNamed scalars name slot ↔
    (scalars.map fun v => lower v.name)[slot]? = some (lower name) := by
  simp only [IsNamed, sameName_iff, List.getElem?_map, Option.map_eq_some_iff]

/-- Where names are distinct there is one slot of a name. -/
theorem IsNamed.unique (distinct : (scalars.map fun v => lower v.name).Nodup) {other : Nat}
    (named : IsNamed scalars name slot) (otherNamed : IsNamed scalars name other) : slot = other := by
  have inside : slot < (scalars.map fun v => lower v.name).length := by
    rw [List.length_map]
    exact named.lt_length
  rw [isNamed_iff_getElem?] at named otherNamed
  exact (List.getElem?_inj inside distinct).mp (named.trans otherNamed.symm)

/-- **The first is the last**, for every name, exactly if names are distinct. -/
theorem Context.scalarSlot?_eq_slot?_iff (ctx : Context) :
    (∀ name, ctx.package.scalarSlot? name = ctx.inventory.slot? name) ↔
      (ctx.inventory.scalars.map fun v => lower v.name).Nodup := by
  constructor
  · intro agree
    rw [List.nodup_iff_getElem?_ne_getElem?]
    intro slot later before inside same
    rw [List.length_map] at inside
    have laterNamed : IsNamed ctx.inventory.scalars ctx.inventory.scalars[later].name later :=
      ⟨_, List.getElem?_eq_getElem inside, sameName_iff.mpr rfl⟩
    have named : IsNamed ctx.inventory.scalars ctx.inventory.scalars[later].name slot := by
      rw [isNamed_iff_getElem?] at laterNamed ⊢
      exact same.trans laterNamed
    cases found : ctx.inventory.slot? ctx.inventory.scalars[later].name with
    | none =>
        have nobody := ctx.inventory.slot?_eq_none_iff.mp found
        exact nobody _ (List.getElem_mem inside) (sameName_iff.mpr rfl)
    | some between =>
        have isLast := ctx.inventory.slot?_eq_some_iff.mp found
        have isFirst := ctx.scalarSlot?_eq_some_iff.mp ((agree _).trans found)
        have atLeast := isLast.last later laterNamed
        have atMost := isFirst.first slot named
        omega
  · intro distinct name
    cases found : ctx.inventory.slot? name with
    | none =>
        rw [← Option.not_isSome_iff_eq_none, Option.isSome_iff_exists]
        rintro ⟨slot, other⟩
        obtain ⟨⟨v, listed, named⟩, -⟩ := ctx.scalarSlot?_eq_some_iff.mp other
        exact ctx.inventory.slot?_eq_none_iff.mp found v (List.mem_of_getElem? listed) named
    | some slot =>
        have isLast := ctx.inventory.slot?_eq_some_iff.mp found
        refine ctx.scalarSlot?_eq_some_iff.mpr ⟨isLast.named, fun other otherNamed => ?_⟩
        exact Nat.le_of_eq (isLast.named.unique distinct otherNamed)

/-! ### The three lookups of a module -/

/-- **Three lookups, one answer exactly if names are distinct.** The dictionary of a module and its index
agree on every name: they have the slot of its last scalar, in any case, and none if there is no such
scalar. The index is the one that is published with the module. The descriptor table of the module gives
the same slot for every name exactly if no two scalars have the same name, in any case. -/
theorem lookups_agree_iff (interface : Interface) :
    (∀ name,
      (∀ slot, (Inventory.ofInterface interface).slot? name = some slot ↔
        IsLastNamed (Inventory.ofInterface interface).scalars name slot) ∧
      ((Inventory.ofInterface interface).slot? name = none ↔
        ∀ v ∈ (Inventory.ofInterface interface).scalars, ¬ sameName v.name name) ∧
      (Inventory.ofInterface interface).index.slot? name =
        (Inventory.ofInterface interface).slot? name) ∧
    (∀ generator generated, Generator.generate generator interface = .ok generated →
      generated.index = (Inventory.ofInterface (generator.timed interface)).index) ∧
    (∀ ctx : Context, ctx.inventory = .ofInterface interface →
      ((∀ name, ctx.package.scalarSlot? name = ctx.inventory.slot? name) ↔
        interface.HasDistinctScalars)) := by
  refine ⟨fun name => ⟨fun slot => ?_, ?_, ?_⟩, fun _ _ => Generator.index_of_generate, ?_⟩
  · exact (Inventory.ofInterface interface).slot?_eq_some_iff
  · exact (Inventory.ofInterface interface).slot?_eq_none_iff
  · exact (Inventory.ofInterface interface).slot?_index name
  · intro ctx isContext
    rw [ctx.scalarSlot?_eq_slot?_iff, isContext]
    rfl

/-- A name that is there in both cases. -/
def bothCases : Interface where
  module := "wxy"
  declarations :=
    [.variable (Variable.scalar "n" .integer "sizes"), .variable (Variable.scalar "N" .integer "sizes")]

/-- The dictionary has the second scalar and the table gives the first one. -/
theorem lookups_agree_iff_bothCases :
    (Inventory.ofInterface bothCases).slot? "n" = some 1 ∧
      ¬ ∀ name, (Generator.context {} bothCases).package.scalarSlot? name =
        (Inventory.ofInterface bothCases).slot? name := by
  obtain ⟨maps, -, table⟩ := lookups_agree_iff bothCases
  have isLast : IsLastNamed (Inventory.ofInterface bothCases).scalars "n" 1 := by
    refine ⟨⟨_, rfl, by decide +kernel⟩, fun other named => ?_⟩
    exact Nat.le_of_lt_succ named.lt_length
  refine ⟨((maps "n").1 1).mpr isLast, fun agree => ?_⟩
  have distinct := (table (Generator.context {} bothCases) rfl).mp agree
  unfold Interface.HasDistinctScalars at distinct
  exact absurd distinct (by decide +kernel)

end ForeignGlue
