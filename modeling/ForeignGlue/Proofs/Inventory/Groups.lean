/-
**Sorted declarations and listed groups.**

The declarations of an interface are sorted into scalars, arrays and routines, and the groups of its
variables are listed.

* `Inventory.sorts_ofInterface`: the lists keep the order of the declarations, and nothing is lost or
  repeated;
* `Interface.listsGroups_groups`: every group is listed once, where it first appears, visible groups
  before hidden ones.
-/

import ForeignGlue.Inventory
import Mathlib.Data.List.Perm.Basic

namespace ForeignGlue

/-! ### First appearances -/

/-- First appearances stay in order. -/
theorem pairwise_idxOf_distinct {α : Type} [BEq α] [LawfulBEq α] (items : List α) :
    (distinct items).Pairwise fun first second => items.idxOf first < items.idxOf second := by
  induction items with
  | nil => exact .nil
  | cons item items ih =>
      have other : ∀ x ∈ (distinct items).filter fun y => !(id y == id item),
          (item :: items).idxOf x = items.idxOf x + 1 := by
        intro x member
        have differs : x ≠ item := by simpa using (List.mem_filter.mp member).2
        exact List.idxOf_cons_ne _ differs.symm
      show (item :: (distinct items).filter _).Pairwise _
      rw [List.pairwise_cons]
      constructor
      · intro x member
        rw [List.idxOf_cons_self, other x member]
        exact Nat.succ_pos _
      · refine (ih.sublist List.filter_sublist).imp_of_mem fun {x y} first second earlier => ?_
        rw [other x first, other y second]
        exact Nat.succ_lt_succ earlier

/-! ### Sorted declarations -/

/-- A declaration with the storage properties of its variable found anew. -/
def Declaration.annotate : Declaration → Declaration
  | .variable declared => .variable declared.annotate
  | .routine declared => .routine declared

/-- **An interface, sorted**: each list has declarations in their order, with the storage properties
of variables found, and together they have all of them. Hidden variables stay a list of their own. -/
structure Inventory.Sorts (inventory : Inventory) (interface : Interface) : Prop where
  scalars : (inventory.scalars.map Declaration.variable).Sublist
    (interface.declarations.map Declaration.annotate)
  arrays : (inventory.arrays.map Declaration.variable).Sublist
    (interface.declarations.map Declaration.annotate)
  routines : (inventory.routines.map Declaration.routine).Sublist interface.declarations
  complete : ((inventory.scalars ++ inventory.arrays).map Declaration.variable ++
    inventory.routines.map Declaration.routine).Perm
      (interface.declarations.map Declaration.annotate)
  isScalar : ∀ v ∈ inventory.scalars, v.isScalar = true
  isArray : ∀ v ∈ inventory.arrays, v.isScalar = false
  hidden : inventory.hidden = interface.hidden.map Variable.annotate

namespace Interface

variable (interface : Interface)

theorem variables_sublist :
    ((interface.visibleVariables.map Variable.annotate).map Declaration.variable).Sublist
      (interface.declarations.map Declaration.annotate) := by
  unfold visibleVariables
  induction interface.declarations with
  | nil => exact .slnil
  | cons declaration declarations ih =>
      rcases declaration with v | routine
      · exact ih.cons_cons _
      · exact ih.cons _

theorem routines_sublist :
    (interface.routines.map Declaration.routine).Sublist interface.declarations := by
  unfold routines
  induction interface.declarations with
  | nil => exact .slnil
  | cons declaration declarations ih =>
      rcases declaration with v | routine
      · exact ih.cons _
      · exact ih.cons_cons _

/-- Every declaration is a variable or a routine. -/
theorem perm_declarations :
    ((interface.visibleVariables.map Variable.annotate).map Declaration.variable ++
      interface.routines.map Declaration.routine).Perm
        (interface.declarations.map Declaration.annotate) := by
  unfold visibleVariables routines
  induction interface.declarations with
  | nil => exact .refl _
  | cons declaration declarations ih =>
      rcases declaration with v | routine
      · exact ih.cons _
      · exact List.perm_middle.trans (ih.cons _)

end Interface

namespace Inventory

/-- **The inventory sorts the declarations**, and loses none. -/
theorem sorts_ofInterface (interface : Interface) : (ofInterface interface).Sorts interface where
  scalars := (List.filter_sublist.map _).trans interface.variables_sublist
  arrays := (List.filter_sublist.map _).trans interface.variables_sublist
  routines := interface.routines_sublist
  complete := (((List.filter_append_perm _ _).map _).append_right _).trans interface.perm_declarations
  isScalar v member := (List.mem_filter.mp member).2
  isArray v member := by simpa using (List.mem_filter.mp member).2
  hidden := rfl

/-- A variable of an inventory is one that is declared, annotated. -/
theorem mem_allVariables {interface : Interface} {v : Variable} :
    v ∈ (ofInterface interface).allVariables ↔ ∃ declared : Variable,
      (declared ∈ interface.visibleVariables ∨ declared ∈ interface.hidden) ∧
        declared.annotate = v := by
  have sorted : v ∈ (ofInterface interface).scalars ++ (ofInterface interface).arrays ↔
      v ∈ interface.visibleVariables.map Variable.annotate :=
    (List.filter_append_perm _ _).mem_iff
  rw [allVariables, List.mem_append, sorted]
  simp only [ofInterface, List.mem_map, or_and_right, exists_or]

/-- What is kept of the variables of an interface, by a property that annotation does not change, are
variables that are declared, annotated. -/
theorem mem_filter_annotate {kept : Variable → Bool} {declarations : List Variable} {v : Variable}
    (same : ∀ declared : Variable, kept declared.annotate = kept declared) :
    v ∈ (declarations.map Variable.annotate).filter kept ↔
      ∃ declared ∈ declarations, kept declared = true ∧ declared.annotate = v := by
  rw [List.mem_filter, List.mem_map]
  constructor
  · rintro ⟨⟨declared, listed, rfl⟩, isKept⟩
    exact ⟨declared, listed, same declared ▸ isKept, rfl⟩
  · rintro ⟨declared, listed, isKept, rfl⟩
    exact ⟨⟨declared, listed, rfl⟩, (same declared).trans isKept⟩

/-- The scalars of an inventory are the declared ones, annotated. -/
theorem mem_scalars {interface : Interface} {v : Variable} :
    v ∈ (ofInterface interface).scalars ↔ ∃ declared ∈ interface.visibleVariables,
      declared.isScalar = true ∧ declared.annotate = v :=
  mem_filter_annotate fun _ => rfl

theorem mem_arrays {interface : Interface} {v : Variable} :
    v ∈ (ofInterface interface).arrays ↔ ∃ declared ∈ interface.visibleVariables,
      declared.isScalar = false ∧ declared.annotate = v := by
  simp only [← Bool.not_eq_true']
  exact mem_filter_annotate fun _ => rfl

variable {inventory : Inventory} {v : Variable}

/-- What the flags of a listed variable say of its type is what is declared. -/
theorem isRecord_eq (listed : v ∈ inventory.allVariables) : v.isRecord = v.type.isRecord := by
  have same := v.isRecord_annotate
  rwa [inventory.annotated v listed] at same

end Inventory

/-! ### Listed groups -/

/-- **The groups of an interface**: each is listed once, where a variable first has it, those of visible
variables before those that only hidden variables have. -/
structure Interface.ListsGroups (interface : Interface) (groups : List Group) : Prop where
  once : (groups.map Group.name).Nodup
  named : ∀ name, name ∈ groups.map Group.name ↔
    ∃ v ∈ interface.visibleVariables ++ interface.hidden, v.group = name
  hidden : ∀ group ∈ groups, group.hidden = true ↔
    ∀ v ∈ interface.visibleVariables, v.group ≠ group.name
  visibleFirst : groups.Pairwise fun first second => second.hidden = false → first.hidden = false
  ordered : groups.Pairwise fun first second =>
    ((interface.visibleVariables ++ interface.hidden).map Variable.group).idxOf first.name <
      ((interface.visibleVariables ++ interface.hidden).map Variable.group).idxOf second.name

namespace Interface

variable (interface : Interface)

/-- The groups of visible variables. -/
def visibleGroups : List String :=
  distinct (interface.visibleVariables.map Variable.group)

/-- The groups that only hidden variables have. -/
def hiddenGroups : List String :=
  (distinct (interface.hidden.map Variable.group)).filter fun name =>
    !interface.visibleGroups.contains name

/-- **The groups of an interface**: those of visible variables, then those that only hidden ones have. -/
theorem groups_eq : interface.groups =
    interface.visibleGroups.map (Group.mk · false) ++ interface.hiddenGroups.map (Group.mk · true) :=
  rfl

theorem map_name_groups :
    interface.groups.map Group.name = interface.visibleGroups ++ interface.hiddenGroups := by
  rw [groups_eq, List.map_append, List.map_map, List.map_map]
  exact congrArg₂ _ (List.map_id _) (List.map_id _)

variable {interface} {name : String}

theorem mem_visibleGroups :
    name ∈ interface.visibleGroups ↔ name ∈ interface.visibleVariables.map Variable.group :=
  mem_distinct

theorem mem_hiddenGroups : name ∈ interface.hiddenGroups ↔
    name ∈ interface.hidden.map Variable.group ∧ name ∉ interface.visibleGroups := by
  simp [hiddenGroups]

/-- A group is hidden if all of its variables are. -/
theorem mem_groups {group : Group} : group ∈ interface.groups ↔
    group.hidden = false ∧ group.name ∈ interface.visibleGroups ∨
      group.hidden = true ∧ group.name ∈ interface.hiddenGroups := by
  rcases group with ⟨name, hidden⟩
  rw [groups_eq, List.mem_append, List.mem_map, List.mem_map]
  cases hidden <;> simp

variable (interface)

/-- Visible groups come first. -/
theorem pairwise_visibleFirst :
    interface.groups.Pairwise fun first second => second.hidden = false → first.hidden = false := by
  rw [groups_eq, List.pairwise_append, List.pairwise_map, List.pairwise_map]
  refine ⟨List.pairwise_of_forall fun _ _ _ => rfl, List.pairwise_of_forall fun _ _ => nofun, ?_⟩
  intro first visible second hidden
  obtain ⟨_, -, rfl⟩ := List.mem_map.mp visible
  exact fun _ => rfl

/-- Groups are in the order in which they first appear. -/
theorem pairwise_firstAppearance : (interface.visibleGroups ++ interface.hiddenGroups).Pairwise
    fun first second =>
      ((interface.visibleVariables ++ interface.hidden).map Variable.group).idxOf first <
        ((interface.visibleVariables ++ interface.hidden).map Variable.group).idxOf second := by
  have visible : ∀ name ∈ interface.visibleGroups,
      ((interface.visibleVariables ++ interface.hidden).map Variable.group).idxOf name =
        (interface.visibleVariables.map Variable.group).idxOf name := by
    intro name member
    rw [List.map_append, List.idxOf_append, if_pos (mem_visibleGroups.mp member)]
  have hidden : ∀ name ∈ interface.hiddenGroups,
      ((interface.visibleVariables ++ interface.hidden).map Variable.group).idxOf name =
        (interface.hidden.map Variable.group).idxOf name +
          (interface.visibleVariables.map Variable.group).length := by
    intro name member
    have unseen := mt mem_visibleGroups.mpr (mem_hiddenGroups.mp member).2
    rw [List.map_append, List.idxOf_append, if_neg unseen]
  refine List.pairwise_append.mpr ⟨?_, ?_, ?_⟩
  · refine (pairwise_idxOf_distinct _).imp_of_mem fun first second earlier => ?_
    rw [visible _ first, visible _ second]
    exact earlier
  · refine ((pairwise_idxOf_distinct _).sublist List.filter_sublist).imp_of_mem ?_
    intro _ _ first second earlier
    rw [hidden _ first, hidden _ second]
    exact Nat.add_lt_add_right earlier _
  · intro first seen second unseen
    rw [visible _ seen, hidden _ unseen]
    exact Nat.lt_add_left _ (List.idxOf_lt_length_of_mem (mem_visibleGroups.mp seen))

theorem nodup_groups : (interface.groups.map Group.name).Nodup := by
  rw [map_name_groups]
  refine (interface.pairwise_firstAppearance).imp fun {first second} earlier same => ?_
  rw [same] at earlier
  exact Nat.lt_irrefl _ earlier

/-- **The groups are listed once each, in order.** -/
theorem listsGroups_groups : interface.ListsGroups interface.groups where
  once := interface.nodup_groups
  named name := by
    rw [map_name_groups, ← List.mem_map, List.map_append, List.mem_append, List.mem_append,
      mem_hiddenGroups, mem_visibleGroups]
    by_cases seen : name ∈ interface.visibleVariables.map Variable.group
    · simp only [seen, true_or]
    · simp only [seen, false_or, not_false_eq_true, and_true]
  hidden group member := by
    have seen : (∀ v ∈ interface.visibleVariables, v.group ≠ group.name) ↔
        group.name ∉ interface.visibleGroups := by
      rw [mem_visibleGroups, List.mem_map]
      exact ⟨fun none ⟨v, member, same⟩ => none v member same,
        fun none v member same => none ⟨v, member, same⟩⟩
    rw [seen]
    rcases mem_groups.mp member with ⟨visible, among⟩ | ⟨hidden, among⟩
    · exact iff_of_false (by rw [visible]; exact Bool.false_ne_true) (not_not_intro among)
    · exact iff_of_true hidden (mem_hiddenGroups.mp among).2
  visibleFirst := interface.pairwise_visibleFirst
  ordered := by
    have ordered := interface.pairwise_firstAppearance
    rw [← map_name_groups, List.pairwise_map] at ordered
    exact ordered

end Interface

/-- Every variable is in one of the groups. -/
theorem Inventory.group_mem_groupNames {interface : Interface} {v : Variable}
    (listed : v ∈ (ofInterface interface).allVariables) :
    v.group ∈ (ofInterface interface).groupNames := by
  obtain ⟨declared, known, rfl⟩ := mem_allVariables.mp listed
  exact (interface.listsGroups_groups.named declared.group).mpr
    ⟨declared, List.mem_append.mpr known, rfl⟩

end ForeignGlue
