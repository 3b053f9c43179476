/-
**Scalars and the types they are accessed with.**

The host file reads the scalars in bounds as `long`, and adds to timers as `double`, whatever the scalars
are declared as. A slot belongs to the scalar that the module of its table has there.

* `Context.accesses_iff`: an access is that of a name in a bound, or that of a timer;
* `Context.isTyped_iff`: the scalar in its slot decides whether an access is typed;
* `Context.exists_scalar_of_resolved`: what a name resolves to is a slot that has a scalar;
* `Generator.isTyped_hostSource_iff`: all accesses are typed exactly if all scalars that bounds read
  have the type `long`, and all timers the type `double`.
-/

import ForeignGlue.Proofs.Generation.SeparateModules
import ForeignGlue.Proofs.Host.TableAccess

namespace ForeignGlue

open ForeignGlue.CSource

/-! ### The scalar in a slot -/

/-- An index that is made from its scalars. -/
def ScalarIndex.IsPublished (index : ScalarIndex) : Prop :=
  index = .ofScalars index.module index.scalars

instance (index : ScalarIndex) : Decidable index.IsPublished :=
  inferInstanceAs (Decidable (index = _))

/-- **A name that is found has a scalar.** -/
theorem ScalarIndex.IsPublished.exists_scalar {index : ScalarIndex} (published : index.IsPublished)
    {name : String} {slot : Nat} (found : index.slot? name = some slot) :
    ∃ v, index.scalar? slot = some v := by
  rw [published] at found
  obtain ⟨v, held, -⟩ := SlotMap.getElem?_of_get? found
  exact ⟨v, held⟩

theorem Inventory.exists_scalar {inventory : Inventory} {name : String} {slot : Nat}
    (found : inventory.slot? name = some slot) : ∃ v, inventory.scalars[slot]? = some v := by
  have published : inventory.index.IsPublished := rfl
  rw [← inventory.slot?_index] at found
  exact published.exists_scalar found

namespace Scope

/-- The scalar in a slot. -/
def scalar? (scope : Scope) : Slot → Option Variable
  | .own slot => scope.scalars[slot]?
  | .external index slot => index.scalar? slot

/-- The scalar that a name in a bound refers to. -/
def named? (scope : Scope) (name : String) : Option Variable :=
  match scope.resolve name with
  | .ok slot => scope.scalar? slot
  | .error _ => none

theorem named?_eq_some_iff {scope : Scope} {name : String} {v : Variable} :
    scope.named? name = some v ↔
      ∃ slot, scope.resolve name = .ok slot ∧ scope.scalar? slot = some v := by
  unfold named?
  cases scope.resolve name with
  | error error => simp
  | ok slot => simp

end Scope

namespace Context

variable {ctx : Context}

/-- The scalar tables that the host file can access: that of the module, and those of external
modules. -/
def tables (ctx : Context) : List ScalarIndex :=
  ctx.inventory.index :: ctx.externals

/-- No two scalar tables belong to modules of the same name. -/
def HasDistinctTables (ctx : Context) : Prop :=
  ∀ first ∈ ctx.tables, ∀ second ∈ ctx.tables, first.module = second.module → first = second

instance (ctx : Context) : Decidable ctx.HasDistinctTables :=
  inferInstanceAs (Decidable (∀ first ∈ ctx.tables, ∀ second ∈ ctx.tables, _ → _))

/-- The slot of an access belongs to a scalar. -/
def BelongsTo (ctx : Context) (access : Access) (v : Variable) : Prop :=
  ∃ index ∈ ctx.tables, index.tableName = access.table ∧ index.scalar? access.slot = some v

/-- **A typed access**: the slot belongs to a scalar of the type it is accessed with. -/
def IsTyped (ctx : Context) (access : Access) : Prop :=
  ∃ v, ctx.BelongsTo access v ∧ ctx.types.host v.type = access.type

/-- **The type of the scalar decides.** -/
theorem isTyped_iff (distinct : ctx.HasDistinctTables) {index : ScalarIndex}
    (listed : index ∈ ctx.tables) {slot : Nat} {v : Variable} (held : index.scalar? slot = some v)
    (type : String) : ctx.IsTyped ⟨type, index.tableName, slot⟩ ↔ ctx.types.host v.type = type := by
  constructor
  · rintro ⟨w, ⟨other, listedToo, sameTable, heldToo⟩, typed⟩
    have sameModule : other.module = index.module := (String.append_left_inj _).mp sameTable
    obtain rfl := distinct other listedToo index listed sameModule
    obtain rfl := Option.some.inj (heldToo.symm.trans held)
    exact typed
  · intro typed
    exact ⟨v, ⟨index, listed, rfl, held⟩, typed⟩

/-- A name in a bound is accessed as `long`. -/
theorem isTyped_access_iff (distinct : ctx.HasDistinctTables) {name : String} {slot : Slot}
    (resolved : ctx.scope.resolve name = .ok slot) {v : Variable}
    (held : ctx.scope.scalar? slot = some v) :
    ctx.IsTyped (ctx.scope.access slot) ↔ ctx.types.host v.type = "long" := by
  cases slot with
  | own slot => exact isTyped_iff distinct List.mem_cons_self held "long"
  | external index slot =>
      have listed := (Scope.mem_of_resolve_eq_external resolved).1
      exact isTyped_iff distinct (List.mem_cons_of_mem _ listed) held "long"

/-- **A name that resolves refers to a scalar**, if the external indexes are made from their scalars. -/
theorem exists_scalar_of_resolved (published : ∀ index ∈ ctx.externals, index.IsPublished) {name : String}
    {slot : Slot} (resolved : ctx.scope.resolve name = .ok slot) :
    ∃ v, ctx.scope.scalar? slot = some v := by
  cases slot with
  | own slot => exact Inventory.exists_scalar (Scope.resolve_eq_own_iff.mp resolved)
  | external index slot =>
      obtain ⟨listed, found⟩ := Scope.mem_of_resolve_eq_external resolved
      exact (published index listed).exists_scalar found

/-! ### Timers -/

/-- The scalar that the time of a routine is added to. -/
def timer? (ctx : Context) (routine : Routine) : Option Variable :=
  (ctx.timerSlot? routine).bind fun slot => ctx.inventory.scalars[slot]?

theorem exists_timer {routine : Routine} {slot : Nat} (timed : ctx.timerSlot? routine = some slot) :
    ∃ v, ctx.inventory.scalars[slot]? = some v := by
  unfold timerSlot? at timed
  split at timed
  · exact Inventory.exists_scalar timed
  · cases timed

/-! ### What is accessed -/

/-- The names that the host file reads: in the checked bounds of an argument those that are bound to no
local variable, and all in the bounds of an array. -/
def ReadsName (ctx : Context) (name : String) : Prop :=
  (∃ routine ∈ ctx.inventory.routines, ∃ argument ∈ routine.arguments.filter Argument.isChecked,
    ∃ bound ∈ argument.bounds, bound.isAssumed = false ∧ bound.Mentions name ∧
      routine.binding name = none) ∨
  ∃ v ∈ ctx.inventory.arrays, ∃ bound ∈ v.bounds, bound.isAssumed = false ∧ bound.Mentions name

/-- **An access** is that of a name in a bound, or that of a timer. -/
theorem accesses_iff {access : Access} : ctx.Accesses access ↔
    (∃ name slot, ctx.ReadsName name ∧ ctx.scope.resolve name = .ok slot ∧
      access = ctx.scope.access slot) ∨
    ∃ routine ∈ ctx.inventory.routines, ∃ slot, ctx.timerSlot? routine = some slot ∧
      access = ⟨"double", ctx.scalarTable, slot⟩ := by
  constructor
  · rintro (⟨routine, declared, ⟨argument, checked, bound, bounded, closed, name, mentioned, free,
      slot, resolved, same⟩ | timed⟩ | ⟨v, listed, bound, bounded, closed, name, mentioned, -, slot,
      resolved, same⟩)
    · exact .inl ⟨name, slot, .inl ⟨routine, declared, argument, checked, bound, bounded, closed,
        mentioned, free⟩, resolved, same⟩
    · exact .inr ⟨routine, declared, timed⟩
    · exact .inl ⟨name, slot, .inr ⟨v, listed, bound, bounded, closed, mentioned⟩, resolved, same⟩
  · rintro (⟨name, slot, ⟨routine, declared, argument, checked, bound, bounded, closed, mentioned,
      free⟩ | ⟨v, listed, bound, bounded, closed, mentioned⟩, resolved, same⟩ |
      ⟨routine, declared, timed⟩)
    · exact .inl ⟨routine, declared, .inl ⟨argument, checked, bound, bounded, closed, name, mentioned,
        free, slot, resolved, same⟩⟩
    · exact .inr ⟨v, listed, bound, bounded, closed, name, mentioned, rfl, slot, resolved, same⟩
    · exact .inl ⟨routine, declared, .inr timed⟩

/-- **Typed accesses.** All accesses are typed exactly if all scalars that bounds refer to are `long`,
and all timers `double`. -/
theorem isTyped_accesses_iff (distinct : ctx.HasDistinctTables)
    (published : ∀ index ∈ ctx.externals, index.IsPublished) :
    (∀ access, ctx.Accesses access → ctx.IsTyped access) ↔
      (∀ name, ctx.ReadsName name →
        ∀ v ∈ ctx.scope.named? name, ctx.types.host v.type = "long") ∧
      ∀ routine ∈ ctx.inventory.routines,
        ∀ v ∈ ctx.timer? routine, ctx.types.host v.type = "double" := by
  have own : ctx.inventory.index ∈ ctx.tables := List.mem_cons_self
  constructor
  · intro typed
    constructor
    · intro name reads v refers
      obtain ⟨slot, resolved, held⟩ := Scope.named?_eq_some_iff.mp refers
      have here := typed _ (accesses_iff.mpr (.inl ⟨name, slot, reads, resolved, rfl⟩))
      exact (isTyped_access_iff distinct resolved held).mp here
    · intro routine declared v times
      obtain ⟨slot, timed, held⟩ := Option.bind_eq_some_iff.mp times
      have here := typed _ (accesses_iff.mpr (.inr ⟨routine, declared, slot, timed, rfl⟩))
      exact (isTyped_iff distinct own held "double").mp here
  · rintro ⟨long, double⟩ access accessed
    rcases accesses_iff.mp accessed with
      ⟨name, slot, reads, resolved, rfl⟩ | ⟨routine, declared, slot, timed, rfl⟩
    · obtain ⟨v, held⟩ := exists_scalar_of_resolved published resolved
      exact (isTyped_access_iff distinct resolved held).mpr
        (long name reads v (Scope.named?_eq_some_iff.mpr ⟨slot, resolved, held⟩))
    · obtain ⟨v, held⟩ := exists_timer timed
      exact (isTyped_iff distinct own held "double").mpr
        (double routine declared v (Option.bind_eq_some_iff.mpr ⟨slot, timed, held⟩))

end Context

namespace Generator

/-- The accesses in the host source that is generated. -/
theorem in_hostSource_iff {options : Options} {externals : List ScalarIndex} {interface : Interface}
    (plain : (context { options, externals } interface).IsPlain) {generated : GeneratedModule}
    (done : generate { options, externals } interface = .ok generated) (access : Access) :
    access.In .code generated.hostSource.toList ↔
      (context { options, externals } interface).Accesses access := by
  rw [generate_eq_bind _ rfl] at done
  obtain ⟨host, hosted, done⟩ := bind_eq_ok_iff.mp done
  obtain ⟨subroutines, -, done⟩ := bind_eq_ok_iff.mp done
  obtain ⟨modules, -, done⟩ := bind_eq_ok_iff.mp done
  obtain rfl := Except.ok.inj done
  exact Context.in_hostSource_iff rfl plain hosted access

/-- **Slots are accessed with the types of their scalars exactly if** every scalar that a bound refers
to is of the type `long`, and every scalar that takes the time of a routine of the type `double`. A bound
may refer to any scalar, and any scalar may have the name of a timer, so neither holds by itself. -/
theorem isTyped_hostSource_iff (options : Options) (externals : List ScalarIndex)
    (published : ∀ index ∈ externals, index.IsPublished) (interface : Interface) :
    let ctx := context { options, externals } interface
    ctx.IsPlain → ctx.HasDistinctTables →
    ∀ generated, generate { options, externals } interface = .ok generated →
      ((∀ access : Access, access.In .code generated.hostSource.toList → ctx.IsTyped access) ↔
        (∀ name, ctx.ReadsName name →
          ∀ v ∈ ctx.scope.named? name, TypeTable.standard.host v.type = "long") ∧
        ∀ routine ∈ interface.routines,
          ∀ v ∈ ctx.timer? routine, TypeTable.standard.host v.type = "double") := by
  intro ctx plain distinct generated done
  have typed := Context.isTyped_accesses_iff distinct published
  rw [routines_context] at typed
  refine Iff.trans (forall_congr' fun access => ?_) typed
  exact imp_congr_left (in_hostSource_iff plain done access)

/-- A generator that times routines. -/
def timing (externals : List ScalarIndex) : Generator where
  options := { timeRoutines := true }
  externals := externals

/-- The index of a module that has `m`. -/
def extentIndex : ScalarIndex :=
  .ofScalars "grid" [Variable.scalar "m" .integer "sizes"]

/-- An array and an argument that are sized by integers. -/
def sizedByIntegers : Interface where
  module := "wxy"
  declarations :=
    [.variable (Variable.scalar "n" .integer "sizes"),
     .variable (Variable.array "a" .real "fields" [⟨"1", "n"⟩]),
     .routine ((Routine.subroutine "step").arg
       { name := "x", type := .real, bounds := [⟨"1", "m"⟩] })]

/-- Where bounds have integers only, and the timer is not declared, all accesses are typed. -/
theorem isTyped_sizedByIntegers :
    ∃ generated, (timing [extentIndex]).generate sizedByIntegers = .ok generated ∧
      ∀ access : Access, access.In .code generated.hostSource.toList →
        ((timing [extentIndex]).context sizedByIntegers).IsTyped access := by
  have succeeds : ((timing [extentIndex]).generate sizedByIntegers).toOption.isSome := by decide +kernel
  obtain ⟨generated, done⟩ := exists_ok_of_isSome succeeds
  have published : ∀ index ∈ [extentIndex], index.IsPublished := by decide +kernel
  have plain : ((timing [extentIndex]).context sizedByIntegers).IsPlain := by decide +kernel
  have distinct : ((timing [extentIndex]).context sizedByIntegers).HasDistinctTables := by decide +kernel
  have typed := isTyped_hostSource_iff _ [extentIndex] published sizedByIntegers
    plain distinct generated done
  refine ⟨generated, done, typed.mpr ⟨?_, by decide +kernel⟩⟩
  have refers : ∀ name ∈ ["n", "m"], ∀ v ∈ ((timing [extentIndex]).context sizedByIntegers).scope.named? name,
      TypeTable.standard.host v.type = "long" := by
    decide +kernel
  have inArguments : ∀ routine ∈ ((timing [extentIndex]).context sizedByIntegers).inventory.routines,
      ∀ argument ∈ routine.arguments, ∀ bound ∈ argument.bounds,
        ∀ name ∈ Expression.names bound.low ++ Expression.names bound.high, name ∈ ["n", "m"] := by
    decide +kernel
  have inArrays : ∀ v ∈ ((timing [extentIndex]).context sizedByIntegers).inventory.arrays, ∀ bound ∈ v.bounds,
      ∀ name ∈ Expression.names bound.low ++ Expression.names bound.high, name ∈ ["n", "m"] := by
    decide +kernel
  rintro name (⟨routine, declared, argument, checked, bound, bounded, -, mentioned, -⟩ |
    ⟨v, listed, bound, bounded, -, mentioned⟩)
  · have taken := (List.mem_filter.mp checked).1
    exact refers name (inArguments routine declared argument taken bound bounded name
      (List.mem_append.mpr mentioned))
  · exact refers name (inArrays v listed bound bounded name (List.mem_append.mpr mentioned))

/-- An array that is sized by a real number, and a routine whose timer is declared as an integer. -/
def sizedByReal : Interface where
  module := "wxy"
  declarations :=
    [.variable (Variable.scalar "n" .real "sizes"),
     .variable (Variable.scalar "stepruntime" .integer "sizes"),
     .variable (Variable.array "a" .real "fields" [⟨"1", "n"⟩]),
     .routine (Routine.subroutine "step")]

/-- **Accesses can be of the wrong type**: a real number is read as `long`, and to an integer a time is
added as to a `double`. -/
theorem untyped_sizedByReal :
    ∃ generated, (timing []).generate sizedByReal = .ok generated ∧
      (Access.mk "long" "wxy_fscalars" 0).In .code generated.hostSource.toList ∧
      ¬ ((timing []).context sizedByReal).IsTyped ⟨"long", "wxy_fscalars", 0⟩ ∧
      (Access.mk "double" "wxy_fscalars" 1).In .code generated.hostSource.toList ∧
      ¬ ((timing []).context sizedByReal).IsTyped ⟨"double", "wxy_fscalars", 1⟩ := by
  have succeeds : ((timing []).generate sizedByReal).toOption.isSome := by decide +kernel
  obtain ⟨generated, done⟩ := exists_ok_of_isSome succeeds
  have plain : ((timing []).context sizedByReal).IsPlain := by decide +kernel
  have accessed := in_hostSource_iff plain done
  have distinct : ((timing []).context sizedByReal).HasDistinctTables := by decide +kernel
  have own : ((timing []).context sizedByReal).inventory.index ∈
      ((timing []).context sizedByReal).tables := List.mem_cons_self
  have extent : ((timing []).context sizedByReal).inventory.index.scalar? 0 =
      some (Variable.scalar "n" .real "sizes") := rfl
  have timer : ((timing []).context sizedByReal).inventory.index.scalar? 1 =
      some (Variable.scalar "stepruntime" .integer "sizes") := rfl
  refine ⟨generated, done, ?_, ?_, ?_, ?_⟩
  · have reads : ((timing []).context sizedByReal).ReadsName "n" :=
      .inr ⟨Variable.array "a" .real "fields" [⟨"1", "n"⟩], by decide +kernel, ⟨"1", "n"⟩,
        List.mem_singleton_self _, by decide, .inr (by decide)⟩
    have resolved : ((timing []).context sizedByReal).scope.resolve "n" = .ok (.own 0) := by
      decide +kernel
    exact (accessed _).mpr (Context.accesses_iff.mpr (.inl ⟨"n", .own 0, reads, resolved, rfl⟩))
  · exact (Context.isTyped_iff distinct own extent "long").not.mpr (by decide)
  · have timed : ((timing []).context sizedByReal).timerSlot? (Routine.subroutine "step") = some 1 := by
      decide +kernel
    exact (accessed _).mpr (Context.accesses_iff.mpr
      (.inr ⟨Routine.subroutine "step", List.mem_singleton_self _, 1, timed, rfl⟩))
  · exact (Context.isTyped_iff distinct own timer "double").not.mpr (by decide)

end Generator

end ForeignGlue
