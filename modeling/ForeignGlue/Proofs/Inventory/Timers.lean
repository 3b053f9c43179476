/-
**Timers.**

A routine that is timed needs a scalar that bears its name and `runtime`. One is declared for every
routine that has none, and a wrapper finds the scalar of its routine by name, in any case.

* `Interface.scalars_addTimers`: the timers follow the declared scalars;
* `Interface.exists_slot_timerName`: afterwards every routine has its scalar;
* `Inventory.slot?_eq_iff`: two names have the same scalar exactly if they differ in case at most;
* `Context.addsTimeTo_iff`: the line of a wrapper that adds its time names the slot of the timer;
* `Generator.timers_separate_iff`: names of scalars stay distinct exactly if timers are added for
  routines of distinct names only, and two routines are timed apart unless their names differ in case
  only.

Two routines of the same name in any case that both lack a timer get one each, although names of
scalars do not tell the cases apart: `Generator.timers_clash`.
-/

import Mathlib.Data.List.Nodup
import ForeignGlue.Proofs.Generation.Resolution

namespace ForeignGlue

open ForeignGlue.Text

theorem Text.sameName_append_right {first second suffix : String} :
    sameName (first ++ suffix) (second ++ suffix) ↔ sameName first second := by
  rw [sameName_iff, sameName_iff, lower_append, lower_append, String.append_left_inj]

theorem Text.getElem?_toList_append {text : String} {place : Nat} {c : Char}
    (there : text.toList[place]? = some c) (rest : String) :
    (text ++ rest).toList[place]? = some c := by
  obtain ⟨inside, -⟩ := List.getElem?_eq_some_iff.mp there
  rw [String.toList_append, List.getElem?_append_left inside, there]

namespace Interface

variable (interface : Interface)

/-- The routines that a timer is declared for: those whose scalar is not there already. -/
def untimedRoutines : List Routine :=
  interface.routines.filter fun routine => !interface.declaresScalar routine.timerName

/-- No two scalars that the host sees have the same name, in any case. -/
def HasDistinctScalars : Prop :=
  ((Inventory.ofInterface interface).scalars.map fun v => lower v.name).Nodup

/-- **The timers follow the scalars** that are declared. -/
theorem scalars_addTimers : (Inventory.ofInterface interface.addTimers).scalars =
    (Inventory.ofInterface interface).scalars ++ interface.untimedRoutines.map interface.timer := by
  have visible : interface.addTimers.visibleVariables =
      interface.visibleVariables ++ interface.untimedRoutines.map interface.timer := by
    unfold visibleVariables addTimers
    rw [List.filterMap_append, List.filterMap_map]
    exact congrArg _ (congrFun List.filterMap_eq_map _)
  have kept : ((interface.untimedRoutines.map interface.timer).map Variable.annotate).filter
      Variable.isScalar = interface.untimedRoutines.map interface.timer := by
    rw [List.map_map, List.filter_eq_self.mpr]
    · rfl
    · intro v member
      obtain ⟨routine, -, rfl⟩ := List.mem_map.mp member
      rfl
  show (interface.addTimers.visibleVariables.map Variable.annotate).filter Variable.isScalar = _
  rw [visible, List.map_append, List.filter_append, kept]
  rfl

variable {interface}

theorem declaresScalar_iff {name : String} : interface.declaresScalar name ↔
    ∃ v ∈ (Inventory.ofInterface interface).scalars, lower v.name = lower name := by
  simp only [declaresScalar, List.any_eq_true, Bool.and_eq_true, sameName_iff, Inventory.mem_scalars]
  constructor
  · rintro ⟨declared, visible, scalar, named⟩
    exact ⟨declared.annotate, ⟨declared, visible, scalar, rfl⟩, named⟩
  · rintro ⟨_, ⟨declared, visible, scalar, rfl⟩, named⟩
    exact ⟨declared, visible, scalar, named⟩

theorem mem_untimedRoutines {routine : Routine} : routine ∈ interface.untimedRoutines ↔
    routine ∈ interface.routines ∧
      ¬∃ v ∈ (Inventory.ofInterface interface).scalars, lower v.name = lower routine.timerName := by
  rw [untimedRoutines, List.mem_filter, Bool.not_eq_true', ← Bool.not_eq_true, declaresScalar_iff]

/-- Timers are told apart from the declared scalars, so it is for the routines to be told apart. A timer
is added only where no scalar has its name. -/
theorem hasDistinctScalars_addTimers_iff (distinct : interface.HasDistinctScalars) :
    interface.addTimers.HasDistinctScalars ↔
      (interface.untimedRoutines.map fun routine => lower routine.name).Nodup := by
  have timers : ((interface.untimedRoutines.map interface.timer).map fun v => lower v.name) =
      (interface.untimedRoutines.map fun routine => lower routine.name).map (· ++ lower "runtime") := by
    rw [List.map_map, List.map_map]
    exact List.map_congr_left fun routine _ => lower_append _ _
  have apart : ∀ name ∈ (Inventory.ofInterface interface).scalars.map (fun v => lower v.name),
      ∀ timer ∈ (interface.untimedRoutines.map interface.timer).map (fun v => lower v.name),
        name ≠ timer := by
    intro name declared timer added same
    obtain ⟨v, listed, rfl⟩ := List.mem_map.mp declared
    obtain ⟨_, isTimer, rfl⟩ := List.mem_map.mp added
    obtain ⟨routine, untimed, rfl⟩ := List.mem_map.mp isTimer
    exact (mem_untimedRoutines.mp untimed).2 ⟨v, listed, same⟩
  have injective : Function.Injective (· ++ lower "runtime") := fun _ _ same =>
    (String.append_left_inj _).mp same
  unfold HasDistinctScalars at distinct ⊢
  rw [scalars_addTimers, List.map_append, List.nodup_append, timers, List.nodup_map_iff injective]
  rw [timers] at apart
  exact ⟨fun known => known.2.1, fun known => ⟨distinct, known, apart⟩⟩

/-! ### The scalar of a routine -/

/-- **Every routine has its scalar**, declared before or added. -/
theorem exists_slot_timerName {routine : Routine} (declared : routine ∈ interface.routines) :
    ∃ slot, (Inventory.ofInterface interface.addTimers).slot? routine.timerName = some slot := by
  rw [Inventory.slot?, Inventory.dictionary_eq, ← Option.isSome_iff_exists, SlotMap.isSome_get?_iff,
    scalars_addTimers]
  by_cases timed : ∃ v ∈ (Inventory.ofInterface interface).scalars,
      lower v.name = lower routine.timerName
  · obtain ⟨v, listed, named⟩ := timed
    exact ⟨v, List.mem_append_left _ listed, named⟩
  · have untimed := mem_untimedRoutines.mpr ⟨declared, timed⟩
    exact ⟨interface.timer routine, List.mem_append_right _ (List.mem_map_of_mem untimed), rfl⟩

end Interface

/-- **The slot of a name** is that of a scalar of this name, in any case. -/
theorem Inventory.exists_scalar_of_slot? (inventory : Inventory) {name : String} {slot : Nat}
    (found : inventory.slot? name = some slot) :
    ∃ v, inventory.scalars[slot]? = some v ∧ sameName v.name name := by
  rw [Inventory.slot?, Inventory.dictionary_eq] at found
  obtain ⟨v, listed, named⟩ := SlotMap.getElem?_of_get? found
  exact ⟨v, listed, sameName_iff.mpr named⟩

/-- Two names find the same slot exactly if they differ in case at most. -/
theorem Inventory.slot?_eq_iff (inventory : Inventory) {name other : String} {slot otherSlot : Nat}
    (found : inventory.slot? name = some slot) (otherFound : inventory.slot? other = some otherSlot) :
    slot = otherSlot ↔ sameName name other := by
  constructor
  · rintro rfl
    obtain ⟨v, listed, named⟩ := inventory.exists_scalar_of_slot? found
    obtain ⟨w, listedToo, namedToo⟩ := inventory.exists_scalar_of_slot? otherFound
    rw [listed] at listedToo
    rw [Option.some.inj listedToo, sameName_iff] at named
    rw [sameName_iff] at namedToo ⊢
    exact named.symm.trans namedToo
  · intro same
    rw [Inventory.slot?, sameName_iff.mp same] at found
    exact Option.some.inj (found.symm.trans otherFound)

/-! ### The line that adds the time -/

namespace Context

variable (ctx : Context)

/-- The line of a wrapper that adds the time since its start to a scalar. -/
def timeLine (slot : Nat) : String :=
  s!"  *(double *){ctx.scalarTable}[{slot}].data += (time2-time1);"

/-- The wrapper of a routine adds the time of a call to the scalar in a slot. -/
def AddsTimeTo (routine : Routine) (slot : Nat) : Prop :=
  ctx.timeLine slot ∈ ctx.closingLines routine

theorem getElem?_timeLine (slot : Nat) : (ctx.timeLine slot).toList[2]? = some '*' := by
  have cast : "  *(double *)".toList[2]? = some '*' := by decide
  unfold timeLine
  iterate 4 apply getElem?_toList_append
  exact cast

variable {ctx}

/-- The line is told from all others by its third character. -/
theorem timeLine_ne {line : String} {c : Char} (third : line.toList[2]? = some c) (other : c ≠ '*')
    (slot : Nat) : ctx.timeLine slot ≠ line := by
  rintro rfl
  rw [getElem?_timeLine] at third
  exact other (Option.some.inj third).symm

theorem timeLine_inj {slot other : Nat} : ctx.timeLine slot = ctx.timeLine other ↔ slot = other := by
  constructor
  · intro same
    unfold timeLine at same
    rw [String.append_left_inj, String.append_right_inj] at same
    have digits : Nat.toDigits 10 slot = Nat.toDigits 10 other :=
      (Nat.toList_repr.symm.trans (congrArg String.toList same)).trans Nat.toList_repr
    have value := congrArg (Nat.ofDigitChars 10 · 0) digits
    simpa only [Nat.ofDigitChars_toDigits (show 1 < 10 by decide) (Nat.le_refl 10)] using value
  · rintro rfl
    rfl

/-- **The time goes to the slot of the timer**, and to no other. -/
theorem addsTimeTo_iff {routine : Routine} {slot : Nat} :
    ctx.AddsTimeTo routine slot ↔ ctx.timerSlot? routine = some slot := by
  unfold AddsTimeTo closingLines
  simp only [List.mem_append]
  constructor
  · rintro ((restores | adds) | returns)
    · unfold linesIf at restores
      split at restores
      · have third : "  Forthon_restoresubroutineargs(".toList[2]? = some 'F' := by decide
        rw [List.mem_singleton, String.append_assoc] at restores
        exact absurd restores (timeLine_ne (getElem?_toList_append third _) (by decide) slot)
      · cases restores
    · cases found : ctx.timerSlot? routine with
      | none =>
          rw [found] at adds
          cases adds
      | some found =>
          have third : "  time2 = cputime();".toList[2]? = some 't' := by decide
          simp only [found] at adds
          rcases List.mem_cons.mp adds with stops | adds
          · exact absurd stops (timeLine_ne third (by decide) slot)
          · rw [timeLine_inj.mp (List.mem_singleton.mp adds)]
    · cases result : routine.result with
      | none =>
          have third : "  returnnone;".toList[2]? = some 'r' := by decide
          rw [result, List.mem_singleton] at returns
          exact absurd returns (timeLine_ne third (by decide) slot)
      | some type =>
          have third : "  ret_val = Py_BuildValue(\"".toList[2]? = some 'r' := by decide
          have thirdToo : "  return ret_val;".toList[2]? = some 'r' := by decide
          rw [result] at returns
          rcases List.mem_cons.mp returns with builds | returns
          · simp only [String.append_assoc] at builds
            exact absurd builds (timeLine_ne (getElem?_toList_append third _) (by decide) slot)
          · exact absurd (List.mem_singleton.mp returns) (timeLine_ne thirdToo (by decide) slot)
  · intro found
    rw [found]
    exact .inl (.inr (List.mem_cons_of_mem _ List.mem_cons_self))

end Context

namespace Generator

/-- **Timers that stay apart.** If no two scalars of an interface have the same name in any case, this is
so after timers are added exactly if no two of the routines that get one have the same name in any
case. When routines are timed, the wrapper of each routine adds its time to one scalar, which bears the
name of the routine's timer, and two wrappers add to the same scalar exactly if the names of the
routines differ in case at most. -/
theorem timers_separate_iff (generator : Generator) (timing : generator.options.timeRoutines = true)
    (interface : Interface) (distinct : interface.HasDistinctScalars) :
    (interface.addTimers.HasDistinctScalars ↔
      (interface.untimedRoutines.map fun routine => lower routine.name).Nodup) ∧
    (∀ routine ∈ interface.routines, ∃ slot timer,
      (∀ other, (generator.context interface).AddsTimeTo routine other ↔ other = slot) ∧
      (generator.context interface).inventory.scalars[slot]? = some timer ∧
      sameName timer.name routine.timerName) ∧
    ∀ routine ∈ interface.routines, ∀ other ∈ interface.routines,
      (∃ slot, (generator.context interface).AddsTimeTo routine slot ∧
        (generator.context interface).AddsTimeTo other slot) ↔ sameName routine.name other.name := by
  have timed : generator.timed interface = interface.addTimers := if_pos timing
  have added (routine : Routine) (slot : Nat) : (generator.context interface).AddsTimeTo routine slot ↔
      (Inventory.ofInterface interface.addTimers).slot? routine.timerName = some slot := by
    rw [Context.addsTimeTo_iff, Context.timerSlot?, inventory_context, timed]
    exact iff_of_eq (congrArg (· = some slot) (if_pos timing))
  refine ⟨Interface.hasDistinctScalars_addTimers_iff distinct, ?_, ?_⟩
  · intro routine declared
    obtain ⟨slot, found⟩ := Interface.exists_slot_timerName declared
    obtain ⟨timer, listed, named⟩ := Inventory.exists_scalar_of_slot? _ found
    rw [inventory_context, timed]
    refine ⟨slot, timer, fun other => ?_, listed, named⟩
    rw [added, found, Option.some_inj]
    exact eq_comm
  · intro routine declared other otherToo
    obtain ⟨slot, found⟩ := Interface.exists_slot_timerName declared
    obtain ⟨otherSlot, otherFound⟩ := Interface.exists_slot_timerName otherToo
    simp only [added, found, otherFound, Option.some_inj, exists_eq_left']
    rw [eq_comm, Inventory.slot?_eq_iff _ found otherFound]
    exact sameName_append_right

/-- A routine with a timer of its own, in another case, and one without. -/
def stepAndDrift : Interface where
  module := "wxy"
  declarations :=
    [.variable (Variable.scalar "STEPruntime" .double "times"),
     .routine (Routine.subroutine "step"), .routine (Routine.subroutine "drift")]

/-- One timer is added, and the two routines are timed apart. -/
theorem timers_separate_stepAndDrift :
    stepAndDrift.addTimers.HasDistinctScalars ∧ ¬∃ slot,
      (context { options := { timeRoutines := true } } stepAndDrift).AddsTimeTo
        (Routine.subroutine "step") slot ∧
      (context { options := { timeRoutines := true } } stepAndDrift).AddsTimeTo
        (Routine.subroutine "drift") slot := by
  have distinct : stepAndDrift.HasDistinctScalars := by
    unfold Interface.HasDistinctScalars
    decide +kernel
  have untimed : (stepAndDrift.untimedRoutines.map fun routine => lower routine.name).Nodup := by
    decide +kernel
  obtain ⟨stays, -, apart⟩ :=
    timers_separate_iff { options := { timeRoutines := true } } rfl stepAndDrift distinct
  have shared := apart (Routine.subroutine "step") (by decide +kernel) (Routine.subroutine "drift")
    (by decide +kernel)
  exact ⟨stays.mpr untimed, fun same => absurd (shared.mp same) (by decide +kernel)⟩

/-- Two routines of the C language, which tells the cases apart. -/
def bothSteps : Interface where
  module := "wxy"
  declarations :=
    [.routine { name := "Step", convention := .plain },
     .routine { name := "step", convention := .plain }]

/-- **Timers can clash**: both routines get a timer, the two have the same name in different case, and
the time of both routines is added to the second one. -/
theorem timers_clash :
    bothSteps.HasDistinctScalars ∧ ¬bothSteps.addTimers.HasDistinctScalars ∧
      (Inventory.ofInterface bothSteps.addTimers).scalars.map Variable.name =
        ["Stepruntime", "stepruntime"] ∧
      ∀ routine ∈ bothSteps.routines,
        (context { options := { timeRoutines := true } } bothSteps).AddsTimeTo routine 1 := by
  unfold Interface.HasDistinctScalars Context.AddsTimeTo
  decide +kernel

end Generator

end ForeignGlue
