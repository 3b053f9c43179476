/-
**Every wrapper is timed.**

When routines are timed, each needs a scalar that its time is added to. Where one is missing it is declared,
and then nothing is missing any more.

* `Interface.addTimers_eq`: what is declared stays in front, and only timers follow;
* `Interface.untimedRoutines_addTimers`: afterwards no routine lacks its scalar, so a second time nothing
  is added;
* `Context.isTimed_of_timerSlot?`: a wrapper whose routine has a scalar reads the clock on both sides of
  the call;
* `Generator.timers_complete`: so no wrapper of a module whose routines are timed goes without.
-/

import ForeignGlue.Proofs.Inventory.Timers

namespace ForeignGlue

open ForeignGlue.Source
open ForeignGlue.Text

namespace Interface

variable (interface : Interface)

/-- The timers that are added. -/
def addedTimers : List Variable :=
  interface.untimedRoutines.map interface.timer

theorem addTimers_eq : interface.addTimers =
    { interface with
      declarations := interface.declarations ++ interface.addedTimers.map .variable } := by
  rw [addedTimers, List.map_map]
  rfl

theorem routines_addTimers : interface.addTimers.routines = interface.routines := by
  have noRoutine : (interface.addedTimers.map Declaration.variable).filterMap Declaration.asRoutine? =
      [] := by
    rw [List.filterMap_eq_nil_iff]
    intro declaration member
    obtain ⟨timer, -, rfl⟩ := List.mem_map.mp member
    rfl
  rw [addTimers_eq]
  show (interface.declarations ++ interface.addedTimers.map Declaration.variable).filterMap _ = _
  rw [List.filterMap_append, noRoutine, List.append_nil]
  rfl

/-- **Afterwards no routine lacks its scalar.** -/
theorem untimedRoutines_addTimers : interface.addTimers.untimedRoutines = [] := by
  rw [List.eq_nil_iff_forall_not_mem]
  intro routine untimed
  obtain ⟨declared, missing⟩ := mem_untimedRoutines.mp untimed
  rw [routines_addTimers] at declared
  obtain ⟨slot, found⟩ := exists_slot_timerName declared
  obtain ⟨timer, listed, named⟩ := Inventory.exists_scalar_of_slot? _ found
  exact missing ⟨timer, List.mem_of_getElem? listed, sameName_iff.mp named⟩

theorem addTimers_of_timed (timed : interface.untimedRoutines = []) : interface.addTimers = interface := by
  rw [addTimers_eq, addedTimers, timed, List.map_nil, List.map_nil, List.append_nil]

/-- **Adding timers once is enough.** -/
theorem addTimers_addTimers : interface.addTimers.addTimers = interface.addTimers :=
  interface.addTimers.addTimers_of_timed interface.untimedRoutines_addTimers

/-- The slot of a routine's scalar, with the scalar in it. -/
theorem exists_scalar_timerName {routine : Routine} (declared : routine ∈ interface.routines) :
    ∃ slot scalar, (Inventory.ofInterface interface.addTimers).slot? routine.timerName = some slot ∧
      (Inventory.ofInterface interface.addTimers).scalars[slot]? = some scalar ∧
      sameName scalar.name routine.timerName := by
  obtain ⟨slot, found⟩ := exists_slot_timerName declared
  obtain ⟨scalar, listed, named⟩ := Inventory.exists_scalar_of_slot? _ found
  exact ⟨slot, scalar, found, listed, named⟩

end Interface

/-! ### Timed wrappers -/

namespace Context

variable (ctx : Context)

/-- **A timed wrapper** reads the clock before and after the call of its routine, and then adds the
difference to the scalar in a slot. -/
def IsTimed (routine : Routine) (slot : Nat) : Prop :=
  (Draft.ofList
    ["  double time1,time2;", "  time1 = cputime();", ctx.callLine routine, "  time2 = cputime();",
     ctx.timeLine slot]).Sublist (ctx.wrapperBody routine)

variable {ctx} {routine : Routine} {slot : Nat}

theorem sublist_openingLines (found : ctx.timerSlot? routine = some slot) :
    ["  double time1,time2;", "  time1 = cputime();"].Sublist (ctx.openingLines routine) := by
  unfold openingLines
  simp only [found, Option.isSome_some, linesIf, if_true]
  refine List.Sublist.trans ?_ (List.sublist_append_left _ _)
  refine List.Sublist.trans ?_ (List.sublist_append_left _ _)
  show (["  double time1,time2;"] ++ ["  time1 = cputime();"]).Sublist _
  refine List.Sublist.append ?_ (List.Sublist.refl _)
  refine List.Sublist.trans ?_ (List.sublist_append_left _ _)
  exact (List.sublist_append_right _ _).trans (List.sublist_append_left _ _)

theorem sublist_closingLines (found : ctx.timerSlot? routine = some slot) :
    ["  time2 = cputime();", ctx.timeLine slot].Sublist (ctx.closingLines routine) := by
  unfold closingLines
  simp only [found]
  exact (List.sublist_append_right _ _).trans (List.sublist_append_left _ _)

/-- **A wrapper whose routine has a scalar is timed.** -/
theorem isTimed_of_timerSlot? (found : ctx.timerSlot? routine = some slot) :
    ctx.IsTimed routine slot := by
  have starts : (Draft.ofList ["  double time1,time2;", "  time1 = cputime();"]).Sublist
      (Draft.ofList (ctx.openingLines routine ++ (ctx.conversions routine).flatMap Conversion.lines) ++
        ctx.shapeCheckLines routine) :=
    (((sublist_openingLines found).trans (List.sublist_append_left _ _)).map _).trans
      (List.sublist_append_left _ _)
  have calls : [ctx.callLine routine].Sublist (recoveryLines routine ++ [ctx.callLine routine]) :=
    List.sublist_append_right _ _
  have stops : (Draft.ofList [ctx.callLine routine, "  time2 = cputime();", ctx.timeLine slot]).Sublist
      (Draft.ofList (recoveryLines routine ++ [ctx.callLine routine] ++ ctx.closingLines routine ++
        exitLines routine)) :=
    ((calls.append (sublist_closingLines found)).trans (List.sublist_append_left _ _)).map _
  exact starts.append stops

end Context

namespace Generator

/-- **Timers are complete.** Adding timers keeps what an interface declares, in front, and adds to it static
scalars of double precision in the group of timers only. Afterwards the timer of every routine has a slot,
and the scalar in it has the name of the timer, in any case. So, when routines are timed, every wrapper
of a module is timed, with this scalar. And adding timers a second time changes nothing. -/
theorem timers_complete (interface : Interface) :
    (∃ timers : List Variable,
      interface.addTimers =
        { interface with declarations := interface.declarations ++ timers.map .variable } ∧
      ∀ timer ∈ timers, timer.isScalar = true ∧ timer.dynamic = false ∧ timer.type = .double ∧
        timer.group = interface.module ++ "timers") ∧
    (∀ routine ∈ interface.addTimers.routines, ∃ slot scalar,
      (Inventory.ofInterface interface.addTimers).slot? (routine.name ++ "runtime") = some slot ∧
      (Inventory.ofInterface interface.addTimers).scalars[slot]? = some scalar ∧
      sameName scalar.name (routine.name ++ "runtime")) ∧
    (∀ generator : Generator, generator.options.timeRoutines = true →
      ∀ routine ∈ (generator.context interface).inventory.routines, ∃ slot scalar,
        (generator.context interface).IsTimed routine slot ∧
        (generator.context interface).inventory.scalars[slot]? = some scalar ∧
        sameName scalar.name (routine.name ++ "runtime")) ∧
    interface.addTimers.addTimers = interface.addTimers := by
  refine ⟨⟨interface.addedTimers, interface.addTimers_eq, ?_⟩, ?_, ?_, interface.addTimers_addTimers⟩
  · intro timer member
    obtain ⟨routine, -, rfl⟩ := List.mem_map.mp member
    exact ⟨rfl, rfl, rfl, rfl⟩
  · intro routine declared
    rw [Interface.routines_addTimers] at declared
    exact interface.exists_scalar_timerName declared
  · intro generator timing routine declared
    have timed : generator.timed interface = interface.addTimers := if_pos timing
    rw [routines_context] at declared
    obtain ⟨slot, scalar, found, listed, named⟩ := interface.exists_scalar_timerName declared
    rw [← timed, ← inventory_context] at found listed
    have timer : (generator.context interface).timerSlot? routine = some slot :=
      (if_pos timing).trans found
    exact ⟨slot, scalar, Context.isTimed_of_timerSlot? timer, listed, named⟩

/-- Of two routines that share a timer the first is timed too. -/
theorem timers_complete_bothSteps :
    bothSteps.addTimers.addTimers = bothSteps.addTimers ∧
      ∃ slot, (context { options := { timeRoutines := true } } bothSteps).IsTimed
        { name := "Step", convention := .plain } slot := by
  obtain ⟨-, -, timed, again⟩ := timers_complete bothSteps
  have declared : { name := "Step", convention := .plain } ∈
      (context { options := { timeRoutines := true } } bothSteps).inventory.routines := by
    decide +kernel
  obtain ⟨slot, -, isTimed, -⟩ := timed { options := { timeRoutines := true } } rfl _ declared
  exact ⟨again, slot, isTimed⟩

end Generator

end ForeignGlue
