/-
**Whose name it is.**

Names are found through maps of slots, which says little about what they stand for. Without the maps, a
name stands for the last scalar of this name in the first table that has one, the module's own table
before those of external modules:

* `SlotMap.scalar_of_get?`: the slot of a name holds the last scalar of the name;
* `Scope.groupOf_resolve`: the group that a name is resolved to is that of the scalar it stands for;
* `Scope.owners_of_groupsIn`: the groups found in a shape are those of the scalars that its names stand
  for, and every name stands for one.
-/

import ForeignGlue.Proofs.Generation.Demand
import ForeignGlue.Proofs.ScalarIndex.Lookup

namespace ForeignGlue

open ForeignGlue.Text

/-- The last scalar of a name, in any case. -/
def lastNamed? (scalars : List Variable) (name : String) : Option Variable :=
  (scalars.filter fun v => sameName v.name name).getLast?

/-- The scalar that a name stands for: the last of the name in the first table that has one. -/
def owner? (tables : List (List Variable)) (name : String) : Option Variable :=
  tables.findSome? (lastNamed? · name)

theorem lastNamed?_concat (scalars : List Variable) (last : Variable) (name : String) :
    lastNamed? (scalars ++ [last]) name =
      if lower last.name = lower name then some last else lastNamed? scalars name := by
  unfold lastNamed?
  rw [List.filter_append, List.filter_cons, List.filter_nil]
  by_cases named : lower last.name = lower name
  · rw [if_pos named, if_pos (sameName_iff.mpr named), List.getLast?_concat]
  · rw [if_neg named, if_neg (mt sameName_iff.mp named), List.append_nil]

/-- Annotation does not change for which scalar of a table a name stands. -/
theorem lastNamed?_annotate (scalars : List Variable) (name : String) :
    lastNamed? (scalars.map Variable.annotate) name = (lastNamed? scalars name).map Variable.annotate := by
  unfold lastNamed?
  rw [List.filter_map, List.getLast?_map]
  rfl

/-- The group of what a name stands for is the same for annotated scalars. -/
theorem map_group_owner?_annotate (scalars : List Variable) (tables : List (List Variable))
    (name : String) :
    (owner? (scalars.map Variable.annotate :: tables) name).map Variable.group =
      (owner? (scalars :: tables) name).map Variable.group := by
  rw [owner?, owner?, List.findSome?_cons, List.findSome?_cons, lastNamed?_annotate]
  cases lastNamed? scalars name with
  | none => rfl
  | some scalar => rfl

/-- **The slot of a name** holds the last scalar of the name. -/
theorem SlotMap.scalar_of_get? (scalars : List Variable) (name : String) :
    ((SlotMap.ofScalars scalars).get? (lower name)).bind (fun slot => scalars[slot]?) =
      lastNamed? scalars name := by
  induction scalars using List.reverseRecOn with
  | nil => rfl
  | append_singleton scalars last ih =>
      rw [get?_ofScalars_concat, lastNamed?_concat]
      by_cases named : lower last.name = lower name
      · rw [if_pos named, if_pos named]
        exact List.getElem?_concat_length
      · rw [if_neg named, if_neg named, ← ih]
        cases found : (SlotMap.ofScalars scalars).get? (lower name) with
        | none => rfl
        | some slot =>
            obtain ⟨v, listed, -⟩ := getElem?_of_get? found
            exact List.getElem?_append_left (List.getElem?_eq_some_iff.mp listed).1

theorem SlotMap.exists_lastNamed? {scalars : List Variable} {name : String} {slot : Nat}
    (found : (SlotMap.ofScalars scalars).get? (lower name) = some slot) :
    ∃ v, scalars[slot]? = some v ∧ lastNamed? scalars name = some v := by
  obtain ⟨v, listed, -⟩ := getElem?_of_get? found
  refine ⟨v, listed, ?_⟩
  rw [← scalar_of_get?, found]
  exact listed

theorem SlotMap.lastNamed?_eq_none_iff {scalars : List Variable} {name : String} :
    lastNamed? scalars name = none ↔ (SlotMap.ofScalars scalars).get? (lower name) = none := by
  cases found : (SlotMap.ofScalars scalars).get? (lower name) with
  | none =>
      rw [← scalar_of_get?, found]
      exact iff_of_true rfl rfl
  | some slot =>
      obtain ⟨v, -, last⟩ := exists_lastNamed? found
      rw [last]
      simp

namespace Scope

/-- The tables that names are looked up in, in their order. -/
def tables (scope : Scope) : List (List Variable) :=
  scope.scalars :: scope.externals.map ScalarIndex.scalars

/-- The slots of every table are those of its scalars. -/
structure IsIndexed (scope : Scope) : Prop where
  own : scope.dictionary = .ofScalars scope.scalars
  externals : ∀ index ∈ scope.externals, index.slots = .ofScalars index.scalars

variable {scope : Scope}

theorem groupOf_external (scope : Scope) {indexes : List ScalarIndex} (name : String)
    (indexed : ∀ index ∈ indexes, index.slots = .ofScalars index.scalars) :
    (indexes.findSome? fun index => (index.slot? name).map (Slot.external index)).bind scope.groupOf =
      (owner? (indexes.map ScalarIndex.scalars) name).map Variable.group := by
  induction indexes with
  | nil => rfl
  | cons index indexes ih =>
      obtain ⟨here, later⟩ := List.forall_mem_cons.mp indexed
      rw [owner?, List.map_cons, List.findSome?_cons, List.findSome?_cons]
      unfold ScalarIndex.slot?
      rw [here]
      cases found : (SlotMap.ofScalars index.scalars).get? (lower name) with
      | none =>
          rw [SlotMap.lastNamed?_eq_none_iff.mpr found]
          exact ih later
      | some slot =>
          obtain ⟨v, listed, last⟩ := SlotMap.exists_lastNamed? found
          rw [last]
          exact congrArg (Option.map Variable.group) listed

/-- **The group of a name** is that of the scalar it stands for. -/
theorem groupOf_resolve (indexed : scope.IsIndexed) (name : String) :
    (scope.resolve name).toOption.bind scope.groupOf =
      (owner? scope.tables name).map Variable.group := by
  rw [owner?, tables, List.findSome?_cons, resolve, indexed.own]
  cases found : (SlotMap.ofScalars scope.scalars).get? (lower name) with
  | some slot =>
      obtain ⟨v, listed, last⟩ := SlotMap.exists_lastNamed? found
      rw [last]
      exact congrArg (Option.map Variable.group) listed
  | none =>
      rw [SlotMap.lastNamed?_eq_none_iff.mpr found]
      refine Eq.trans ?_ (groupOf_external scope name indexed.externals)
      dsimp only
      cases scope.externals.findSome? fun index => (index.slot? name).map (Slot.external index) with
      | none => rfl
      | some slot => rfl

/-- A name that stands for no scalar is not resolved. -/
theorem isSome_owner? (indexed : scope.IsIndexed) {name : String} {slot : Slot}
    (resolved : scope.resolve name = .ok slot) : (owner? scope.tables name).isSome := by
  by_contra nobody
  rw [Option.not_isSome_iff_eq_none, owner?, List.findSome?_eq_none_iff] at nobody
  obtain ⟨own, others⟩ := List.forall_mem_cons.mp nobody
  have unknown : scope.resolve name = .error (.unresolved name) := by
    refine resolve_eq_error_iff.mpr ⟨rfl, ?_, fun index listed => ?_⟩
    · rw [indexed.own]
      exact SlotMap.lastNamed?_eq_none_iff.mp own
    · rw [ScalarIndex.slot?, indexed.externals index listed]
      exact SlotMap.lastNamed?_eq_none_iff.mp (others _ (List.mem_map_of_mem listed))
  rw [resolved] at unknown
  cases unknown

/-- **The groups of a shape**: every name in it stands for a scalar, and the groups are those of these
scalars, each where it first appears. -/
theorem owners_of_groupsIn (indexed : scope.IsIndexed) {shape : String} {groups : List String}
    (found : scope.groupsIn shape = .ok groups) :
    (∀ name ∈ Expression.names shape, (owner? scope.tables name).isSome) ∧
      groups = distinct ((Expression.names shape).filterMap fun name =>
        (owner? scope.tables name).map Variable.group) := by
  obtain ⟨slots, collected, rest⟩ := bind_eq_ok_iff.mp found
  obtain rfl := Except.ok.inj rest
  have resolved := collect_eq_ok_iff.mp collected
  refine ⟨fun name used => ?_, congrArg distinct ?_⟩
  · obtain ⟨slot, -, same⟩ := List.mem_map.mp (resolved ▸ List.mem_map_of_mem used)
    exact isSome_owner? indexed same.symm
  · have outcomes := congrArg (List.filterMap fun outcome : Except GenerationError Slot =>
      outcome.toOption.bind scope.groupOf) resolved
    rw [List.filterMap_map, List.filterMap_map] at outcomes
    refine Eq.trans outcomes.symm (List.filterMap_congr fun name _ => ?_)
    exact groupOf_resolve indexed name

end Scope

end ForeignGlue
