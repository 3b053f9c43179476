/-
**The order of arguments.**

Arguments have positions, a bound finds the arguments it names in the list, and both rounds of a check
stop at the first argument that is not accepted. None of this shows in what is accepted: if the names
of the arguments are different, the arguments of a routine and the values of a call may be put in
another order together.

* `arguments_assembled`: the arguments of a routine that is put together from them;
* `find?_eq_of_perm`, `callValue_comp`: a name means the same value in any order;
* `accepts_assembled_iff`: the calls that are accepted, without reference to positions;
* `check_permuted`: the same calls go through in any order, with the same buffers up to their
  positions.
-/

import ForeignGlue.Proofs.Call.Acceptance
import Mathlib.Data.List.FinRange
import Mathlib.Data.List.Induction

namespace ForeignGlue

open ForeignGlue.Text

/-- What is found does not depend on the order if no two elements can be. -/
theorem find?_eq_of_perm {α : Type} {xs ys : List α} {test : α → Bool} (perm : xs.Perm ys)
    (alone : ∀ x ∈ ys, ∀ y ∈ ys, test x → test y → x = y) : xs.find? test = ys.find? test := by
  cases found : xs.find? test with
  | none =>
      rw [eq_comm, List.find?_eq_none]
      intro y member
      exact List.find?_eq_none.mp found y (perm.mem_iff.mpr member)
  | some x =>
      have passes := List.find?_some found
      have member := perm.mem_iff.mp (List.mem_of_find?_eq_some found)
      cases foundToo : ys.find? test with
      | none => exact absurd passes (List.find?_eq_none.mp foundToo x member)
      | some y =>
          have passesToo := List.find?_some foundToo
          rw [alone x member y (List.mem_of_find?_eq_some foundToo) passes passesToo]

/-! ### Routines that are put together -/

/-- The argument at a place in the list. -/
def Argument.placed (argument : Argument) (place : Nat) : Argument :=
  { argument with position := place }

/-- What an argument accepts does not depend on its position. -/
theorem conforms_placed_iff {lookup : String → Option Int} {argument : Argument} {place : Nat}
    {value : HostValue} :
    Routine.Conforms lookup (argument.placed place, value) ↔ Routine.Conforms lookup (argument, value) :=
  forall_congr' fun _ => ⟨fun fits => ⟨fits.rank, fits.extents⟩, fun fits => ⟨fits.rank, fits.extents⟩⟩

namespace Routine

variable {start : Routine} {count : Nat}

/-- The routine with some arguments added, one after the other. -/
def assembled (start : Routine) (declared : Fin count → Argument) : Routine :=
  (List.ofFn declared).foldl arg start

/-- Arguments that are added one by one are numbered from the left. -/
theorem arguments_foldl_arg (blank : start.arguments = []) (added : List Argument) :
    (added.foldl arg start).arguments =
      added.mapIdx fun place argument => argument.placed place := by
  induction added using List.reverseRecOn with
  | nil => exact blank
  | append_singleton added argument ih =>
      rw [List.foldl_concat, arg, List.mapIdx_concat, ih, List.length_mapIdx]
      rfl

/-- **The arguments of the routine**, each with its place. -/
theorem arguments_assembled (blank : start.arguments = []) (declared : Fin count → Argument) :
    (start.assembled declared).arguments =
      List.ofFn fun place => (declared place).placed place := by
  rw [assembled, arguments_foldl_arg blank]
  refine List.ext_getElem (by simp) fun place inside insideToo => ?_
  rw [List.getElem_mapIdx, List.getElem_ofFn, List.getElem_ofFn]

theorem positioned_assembled (blank : start.arguments = []) (declared : Fin count → Argument) :
    (start.assembled declared).Positioned :=
  positioned_foldl_arg blank _

theorem zip_assembled (blank : start.arguments = []) (declared : Fin count → Argument)
    (values : Fin count → HostValue) :
    (start.assembled declared).arguments.zip (List.ofFn values) =
      List.ofFn fun place => ((declared place).placed place, values place) := by
  rw [arguments_assembled blank]
  refine List.ext_getElem (by simp) fun place inside insideToo => ?_
  rw [List.getElem_zip, List.getElem_ofFn, List.getElem_ofFn, List.getElem_ofFn]

theorem buffersOf_assembled (blank : start.arguments = []) (declared : Fin count → Argument)
    (values : Fin count → HostValue) :
    (start.assembled declared).buffersOf (List.ofFn values) =
      List.ofFn fun place => { (declared place).bufferOf (values place) with position := place } := by
  rw [buffersOf, arguments_assembled blank]
  refine List.ext_getElem (by simp) fun place inside insideToo => ?_
  rw [List.getElem_zipWith, List.getElem_ofFn, List.getElem_ofFn, List.getElem_ofFn]
  rfl

/-! ### Calls without positions -/

/-- The value of a name in a bound, for arguments and values side by side. -/
def callValue (scalars : String → Option Int) (calls : Fin count → Argument × HostValue)
    (name : String) : Option Int :=
  (((List.ofFn calls).find? fun call => sameName call.1.name name).bind fun call =>
    call.2.number?).or (scalars name)

variable {scalars : String → Option Int} {declared : Fin count → Argument}

theorem nameValue_assembled (blank : start.arguments = []) (values : Fin count → HostValue) :
    (start.assembled declared).nameValue scalars (List.ofFn values) =
      callValue scalars fun place => (declared place, values place) := by
  funext name
  have placed : (List.ofFn fun place : Fin count =>
      ((declared place).placed place, values place)) =
      (List.ofFn fun place : Fin count => (place, declared place, values place)).map
        fun call => (call.2.1.placed call.1, call.2.2) := by
    rw [List.map_ofFn]
    rfl
  have bare : (List.ofFn fun place => (declared place, values place)) =
      (List.ofFn fun place : Fin count => (place, declared place, values place)).map Prod.snd := by
    rw [List.map_ofFn]
    rfl
  rw [nameValue, callValue, zip_assembled blank, placed, bare, List.find?_map, List.find?_map,
    Option.bind_map, Option.bind_map]
  rfl

/-- **Which calls are accepted**, no argument having a position. -/
theorem accepts_assembled_iff (blank : start.arguments = []) (values : Fin count → HostValue) :
    (start.assembled declared).Accepts scalars (List.ofFn values) ↔
      ∀ place, (declared place).Takes (values place) ∧
        Conforms (callValue scalars fun place => (declared place, values place))
          (declared place, values place) := by
  have calls (holds : Argument × HostValue → Prop) :
      (∀ call ∈ (start.assembled declared).arguments.zip (List.ofFn values), holds call) ↔
        ∀ place, holds ((declared place).placed place, values place) := by
    rw [zip_assembled blank, List.forall_mem_ofFn_iff]
  have counted : (List.ofFn values).length = (start.assembled declared).arguments.length := by
    rw [arguments_assembled blank, List.length_ofFn, List.length_ofFn]
  constructor
  · rintro ⟨-, takes, conforms⟩ place
    rw [nameValue_assembled blank] at conforms
    exact ⟨(calls _).mp takes place, conforms_placed_iff.mp ((calls _).mp conforms place)⟩
  · intro accepted
    refine ⟨counted, (calls _).mpr fun place => (accepted place).1, ?_⟩
    rw [nameValue_assembled blank]
    exact (calls _).mpr fun place => conforms_placed_iff.mpr (accepted place).2

/-! ### Another order -/

/-- A name means the same value in any order. -/
theorem callValue_comp (calls : Fin count → Argument × HostValue)
    (distinct : ∀ i j, sameName (calls i).1.name (calls j).1.name → i = j)
    (order : Equiv.Perm (Fin count)) : callValue scalars (calls ∘ order) = callValue scalars calls := by
  funext name
  have alone : ∀ first ∈ List.ofFn calls, ∀ second ∈ List.ofFn calls,
      sameName first.1.name name → sameName second.1.name name → first = second := by
    simp only [List.forall_mem_ofFn_iff, sameName, beq_iff_eq]
    intro i j isFirst isSecond
    rw [distinct i j (beq_iff_eq.mpr (isFirst.trans isSecond.symm))]
  rw [callValue, callValue, find?_eq_of_perm (order.ofFn_comp_perm calls) alone]

theorem accepts_comp_iff (blank : start.arguments = [])
    (distinct : ∀ i j, sameName (declared i).name (declared j).name → i = j)
    (values : Fin count → HostValue) (order : Equiv.Perm (Fin count)) :
    (start.assembled (declared ∘ order)).Accepts scalars (List.ofFn (values ∘ order)) ↔
      (start.assembled declared).Accepts scalars (List.ofFn values) := by
  have sameValue := @callValue_comp count scalars (fun place => (declared place, values place))
    distinct order
  rw [accepts_assembled_iff blank, accepts_assembled_iff blank, ← sameValue]
  exact @Equiv.forall_congr_right _ _ (fun place => (declared place).Takes (values place) ∧
    Conforms (callValue scalars ((fun place => (declared place, values place)) ∘ order))
      (declared place, values place)) order

/-- **The order of arguments does not matter.** The names of the arguments being different, a call goes
through exactly if it does with the arguments and the values in another order, and then the buffers are
those at the old places, with their new positions. -/
theorem check_permuted (blank : start.arguments = [])
    (distinct : ∀ i j, sameName (declared i).name (declared j).name → i = j)
    (values : Fin count → HostValue) (order : Equiv.Perm (Fin count)) :
    ((∃ buffers, (start.assembled declared).check scalars (List.ofFn values) = .ok buffers) ↔
      ∃ buffers, (start.assembled (declared ∘ order)).check scalars (List.ofFn (values ∘ order)) =
        .ok buffers) ∧
    ∀ buffers, (start.assembled declared).check scalars (List.ofFn values) = .ok buffers →
      ∃ held : Fin count → Buffer, buffers = List.ofFn held ∧
        (start.assembled (declared ∘ order)).check scalars (List.ofFn (values ∘ order)) =
          .ok (List.ofFn fun place => { held (order place) with position := place }) := by
  have sameCalls := @accepts_comp_iff start count scalars declared blank distinct values order
  have goesThrough (declared : Fin count → Argument) (values : Fin count → HostValue)
      (buffers : List Buffer) :=
    @check_eq_ok_iff _ (List.ofFn values) scalars buffers (positioned_assembled blank declared)
  simp only [goesThrough, exists_and_left, exists_eq, and_true, sameCalls, true_and]
  rintro _ ⟨accepted, rfl⟩
  refine ⟨_, buffersOf_assembled blank declared values, accepted, ?_⟩
  rw [buffersOf_assembled blank]
  rfl

/-- Two arrays, and a number between them that sizes both. -/
def scaleArguments : Fin 3 → Argument
  | 0 => { name := "y", type := .real, bounds := [⟨"1", "n+1"⟩] }
  | 1 => { name := "N", type := .integer }
  | 2 => { name := "flags", type := .logical, bounds := [⟨"n", "2*n"⟩, ⟨"0", "1"⟩] }

/-- The values of a call. -/
def scaleValues : Fin 3 → HostValue
  | 0 => .array .real [4]
  | 1 => .int 3
  | 2 => .array .integer [4, 2]

/-- The buffers of the call. -/
def scaleBuffers : Fin 3 → Buffer
  | 0 => { position := 0, rank := 1, shape := [4], value := none }
  | 1 => { position := 1, rank := 0, shape := [], value := some 3 }
  | 2 => { position := 2, rank := 2, shape := [4, 2], value := none }

theorem check_permuted_scale :
    ((subroutine "scale").assembled scaleArguments).check (fun _ => none) (List.ofFn scaleValues) =
      .ok (List.ofFn scaleBuffers) ∧
    ∀ order : Equiv.Perm (Fin 3), ((subroutine "scale").assembled (scaleArguments ∘ order)).check
        (fun _ => none) (List.ofFn (scaleValues ∘ order)) =
      .ok (List.ofFn fun place => { scaleBuffers (order place) with position := place }) := by
  have distinct : ∀ i j, sameName (scaleArguments i).name (scaleArguments j).name → i = j := by
    decide +kernel
  have passes : ((subroutine "scale").assembled scaleArguments).check (fun _ => none)
      (List.ofFn scaleValues) = .ok (List.ofFn scaleBuffers) := by
    decide +kernel
  refine ⟨passes, fun order => ?_⟩
  obtain ⟨held, same, moved⟩ := (check_permuted rfl distinct scaleValues order).2 _ passes
  rw [List.ofFn_injective same]
  exact moved

end Routine

end ForeignGlue
