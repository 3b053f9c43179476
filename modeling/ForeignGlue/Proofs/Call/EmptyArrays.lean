/-
**Arrays without elements.**

Where one of the declared extents is zero, an array has no elements, and its extents are not compared
with those of the value. The number of elements is the product of the extents in their order, though,
and each product on the way has to be a word. So it matters where the zero stands:
`validate_of_empty` says exactly which arguments with an extent of zero are passed over, whatever the
value is, and that all others are refused because they cannot be converted.

* `Bound.Spans`: the extent of a pair of bounds as a number.
* `productsFit_takeWhile_iff`: behind a zero no product matters.
* `checkShape_of_empty`: the check of one argument.
* `validate_blames_iff`: the argument that stops the check of all buffers.
-/

import ForeignGlue.Proofs.Call.Acceptance
import ForeignGlue.Proofs.Call.KnownBounds
import Mathlib.Algebra.BigOperators.Ring.List

namespace ForeignGlue

open ForeignGlue.Expression

variable {lookup : String → Option Int} {extents : List (Option Int)}

/-! ### Extents as numbers -/

/-- The extent of a pair of bounds: one more than their distance, and none if the upper one is left
open. The extent is a word, which the distance may fail to be. -/
def Bound.Spans (lookup : String → Option Int) (bound : Bound) : Option Int → Prop
  | none => bound.isAssumed
  | some extent => bound.isAssumed = false ∧ ∃ high low, evaluate bound.high lookup = .ok high ∧
      evaluate bound.low lookup = .ok low ∧ extent = high - low + 1 ∧ fitsWord extent

/-- Whether the distances of the bounds that have these extents are words. -/
def distancesFit (extents : List (Option Int)) : Bool :=
  extents.all fun extent => extent.all fun value => fitsWord (value - 1)

theorem extent_of_spans {bound : Bound} {extent : Option Int} (spans : bound.Spans lookup extent) :
    bound.extent lookup =
      if extent.all fun value => fitsWord (value - 1) then .ok extent else .error .noValue := by
  cases extent with
  | none => exact extent_eq_ok_iff.mpr spans
  | some extent =>
      obtain ⟨closed, high, low, isHigh, isLow, rfl, fits⟩ := spans
      have distance : high - low + 1 - 1 = high - low := by omega
      rw [Option.all_some, distance]
      by_cases distanceFits : fitsWord (high - low)
      · rw [if_pos distanceFits]
        exact extent_eq_ok_iff.mpr ⟨closed, high, low, isHigh, isLow, distanceFits, fits, rfl⟩
      · rw [if_neg distanceFits, Bound.extent, if_neg (by rw [closed]; decide),
          boundValue_eq_ok_iff.mpr isHigh, boundValue_eq_ok_iff.mpr isLow]
        show (inWord (high - low) >>= _) = _
        rw [inWord, if_neg distanceFits]
        rfl

theorem extentsOf_of_spans {bounds : List Bound}
    (spans : List.Forall₂ (Bound.Spans lookup) bounds extents) :
    extentsOf lookup bounds = if distancesFit extents then .ok extents else .error .noValue := by
  unfold extentsOf distancesFit
  induction spans with
  | nil => rfl
  | @cons bound extent bounds extents here _ ih =>
      rw [List.mapM_cons, ih, extent_of_spans here, List.all_cons]
      cases extent.all fun value => fitsWord (value - 1) with
      | false => rfl
      | true =>
          cases extents.all fun extent => extent.all fun value => fitsWord (value - 1) with
          | false => rfl
          | true => rfl

/-! ### Products with a zero -/

/-- **Behind a zero no product matters.** -/
theorem productsFit_takeWhile_iff (factors : List Int) :
    ProductsFit (factors.takeWhile (· != 0)) ↔ ProductsFit factors := by
  have split := List.takeWhile_append_dropWhile (p := (· != 0)) (l := factors)
  constructor
  · intro fit count
    cases rest : factors.dropWhile (· != 0) with
    | nil =>
        rw [rest, List.append_nil] at split
        rw [split] at fit
        exact fit count
    | cons zero more =>
        obtain rfl : zero = 0 := by
          have stopped := List.head?_dropWhile_not (· != 0) factors
          rw [rest] at stopped
          simpa using stopped
        rw [rest] at split
        rw [← split, List.take_append]
        rcases Nat.lt_or_ge (factors.takeWhile (· != 0)).length count with beyond | within
        · obtain ⟨further, isFurther⟩ := Nat.exists_eq_add_of_lt beyond
          rw [isFurther, Nat.add_assoc, Nat.add_sub_cancel_left, List.take_succ_cons, List.prod_eq_zero]
          · decide
          · simp
        · rw [Nat.sub_eq_zero_of_le within, List.take_zero, List.append_nil]
          exact fit count
  · intro fit count
    rw [List.prefix_iff_eq_take.mp (List.takeWhile_prefix _), List.take_take]
    exact fit _

/-- An array with an extent of zero has no elements, unless they cannot be counted. -/
theorem elementTotal_of_empty (empty : some 0 ∈ extents) :
    (ProductsFit ((knownExtents extents).takeWhile (· != 0)) → elementTotal extents = .ok 0) ∧
    (¬ ProductsFit ((knownExtents extents).takeWhile (· != 0)) →
      elementTotal extents = .error .noValue) := by
  have zero : (0 : Int) ∈ knownExtents extents := List.mem_filterMap.mpr ⟨_, empty, rfl⟩
  rw [productsFit_takeWhile_iff]
  constructor
  · intro fit
    exact elementTotal_eq_ok_iff.mpr ⟨fit, (List.prod_eq_zero zero).symm⟩
  · intro overflows
    cases counted : elementTotal extents with
    | ok total => exact absurd (elementTotal_eq_ok_iff.mp counted).1 overflows
    | error cause =>
        cases cause with
        | noValue => rfl
        | unreadable => exact absurd counted elementTotal_ne_unreadable

/-! ### One argument -/

/-- **All that is computed of the extents is a word**: the distances of the bounds, and the products
of leading extents up to the first zero. -/
structure StaysInWord (extents : List (Option Int)) : Prop where
  distances : distancesFit extents
  products : ProductsFit ((knownExtents extents).takeWhile (· != 0))

/-- **The check of an array without elements** looks at its extents only, not at the value. -/
theorem checkShape_of_empty {declared : Argument} {buffer : Buffer}
    (ranked : declared.acceptsRank buffer)
    (spans : List.Forall₂ (Bound.Spans lookup) declared.bounds extents) (empty : some 0 ∈ extents) :
    (StaysInWord extents → declared.checkShape lookup buffer = .ok ()) ∧
    (¬ StaysInWord extents → declared.checkShape lookup buffer = .error (.call .conversion)) := by
  obtain ⟨counted, uncounted⟩ := elementTotal_of_empty empty
  rw [checkShape_eq, if_pos (acceptsRank_iff.mp ranked), extentsOf_of_spans spans]
  constructor
  · intro stays
    rw [if_pos stays.distances]
    show ((elementTotal extents).mapError ExtentFault.shapeFault >>= _) = _
    rw [counted stays.products]
    rfl
  · intro leaves
    by_cases distances : distancesFit extents
    · rw [if_pos distances]
      show ((elementTotal extents).mapError ExtentFault.shapeFault >>= _) = _
      rw [uncounted fun products => leaves ⟨distances, products⟩]
      rfl
    · rw [if_neg distances]
      rfl

/-! ### All arguments -/

namespace Routine

variable {routine : Routine} {pairs : List (Argument × Buffer)} {number : Nat} {fault : CallFault}

/-- A buffer is of a shape that its argument accepts, if the shape is checked at all. -/
def Passes (lookup : String → Option Int) (pair : Argument × Buffer) : Prop :=
  pair.1.isChecked → pair.1.checkShape lookup pair.2 = .ok ()

/-- The check goes on behind what passes. -/
theorem checkShapes_cons_of_passes (routine : Routine) (current : Nat)
    (pairs : List (Argument × Buffer)) {pair : Argument × Buffer} (passes : Passes lookup pair) :
    ∃ next, routine.checkShapes lookup current (pair :: pairs) =
      routine.checkShapes lookup next pairs := by
  obtain ⟨declared, buffer⟩ := pair
  rw [checkShapes]
  cases isChecked : declared.isChecked with
  | false => exact ⟨current, rfl⟩
  | true =>
      rw [if_pos rfl, passes isChecked]
      exact ⟨declared.position + 1, rfl⟩

/-- A pair that does not pass stops the check. -/
theorem checkShapes_cons_of_not_passes (routine : Routine) (current : Nat)
    (pairs : List (Argument × Buffer)) {pair : Argument × Buffer} (stops : ¬ Passes lookup pair) :
    ∃ cause, pair.1.isChecked ∧ pair.1.checkShape lookup pair.2 = .error cause ∧
      routine.checkShapes lookup current (pair :: pairs) =
        .error (routine.shapeFailure (pair.1.position + 1) cause) := by
  obtain ⟨isChecked, refused⟩ := Classical.not_imp.mp stops
  cases outcome : pair.1.checkShape lookup pair.2 with
  | ok _ => exact absurd outcome refused
  | error cause =>
      refine ⟨cause, isChecked, rfl, ?_⟩
      rw [checkShapes, if_pos isChecked, outcome]

/-- **Where the check stops**: at the first pair that does not pass. -/
theorem checkShapes_eq_refused_iff {current : Nat} :
    routine.checkShapes lookup current pairs = .error (.refused (routine.refusal number fault)) ↔
      ∃ before pair after, pairs = before ++ pair :: after ∧
        (∀ earlier ∈ before, Passes lookup earlier) ∧ pair.1.isChecked ∧
        pair.1.checkShape lookup pair.2 = .error (.call fault) ∧ number = pair.1.position + 1 := by
  induction pairs generalizing current with
  | nil => simp [checkShapes]
  | cons first pairs ih =>
      by_cases passes : Passes lookup first
      · obtain ⟨next, goesOn⟩ := checkShapes_cons_of_passes routine current pairs passes
        rw [goesOn, ih]
        constructor
        · rintro ⟨before, pair, after, rfl, earlier, stopped⟩
          exact ⟨first :: before, pair, after, rfl, List.forall_mem_cons.mpr ⟨passes, earlier⟩, stopped⟩
        · rintro ⟨before, pair, after, split, earlier, isChecked, failed, numbered⟩
          cases before with
          | nil =>
              obtain ⟨rfl, -⟩ := List.cons.inj split
              rw [passes isChecked] at failed
              cases failed
          | cons _ before =>
              exact ⟨before, pair, after, (List.cons.inj split).2,
                fun other member => earlier other (List.mem_cons_of_mem _ member), isChecked, failed,
                numbered⟩
      · obtain ⟨cause, isChecked, failed, stopped⟩ :=
          checkShapes_cons_of_not_passes routine current pairs passes
        rw [stopped]
        constructor
        · intro refused
          cases cause with
          | unreadable => cases refused
          | call cause =>
              cases refused
              exact ⟨[], first, pairs, rfl, by simp, isChecked, failed, rfl⟩
        · rintro ⟨before, pair, after, split, earlier, -, failedHere, rfl⟩
          cases before with
          | nil =>
              obtain ⟨rfl, -⟩ := List.cons.inj split
              rw [failed] at failedHere
              cases failedHere
              rfl
          | cons other before =>
              obtain ⟨rfl, -⟩ := List.cons.inj split
              exact absurd (earlier first List.mem_cons_self) passes

/-- **The argument that a check of buffers is stopped by**: all before it pass, and it does not. -/
theorem validate_blames_iff {scalars : String → Option Int} {buffers : List Buffer} {place : Nat}
    (positioned : routine.Positioned) :
    routine.validate scalars buffers = .error (.refused (routine.refusal (place + 1) fault)) ↔
      (∀ earlier ∈ (routine.arguments.zip buffers).take place,
        Passes (routine.valueOf scalars buffers) earlier) ∧
      ∃ pair, (routine.arguments.zip buffers)[place]? = some pair ∧ pair.1.isChecked ∧
        pair.1.checkShape (routine.valueOf scalars buffers) pair.2 = .error (.call fault) := by
  rw [validate, checkShapes_eq_refused_iff]
  constructor
  · rintro ⟨before, pair, after, split, earlier, isChecked, failed, numbered⟩
    have listed : (routine.arguments.zip buffers)[before.length]? = some pair := by simp [split]
    obtain rfl : place = before.length :=
      (Nat.succ.inj numbered).trans
        (position_of_getElem? positioned (List.getElem?_zip_eq_some.mp listed).1)
    refine ⟨?_, pair, listed, isChecked, failed⟩
    rwa [split, List.take_left]
  · rintro ⟨earlier, pair, listed, isChecked, failed⟩
    obtain ⟨inside, here⟩ := List.getElem?_eq_some_iff.mp listed
    refine ⟨_, pair, (routine.arguments.zip buffers).drop (place + 1), ?_, earlier, isChecked, failed, ?_⟩
    · rw [← here, List.getElem_cons_drop, List.take_append_drop]
    · rw [position_of_getElem? positioned (List.getElem?_zip_eq_some.mp listed).1]

/-- **Which arrays without elements are passed over.** An argument with an extent of zero is not
refused, whatever its buffer holds, if all that is computed of its extents is a word. Else it is
refused as one that cannot be converted, unless the check stops before it. -/
theorem validate_of_empty {routine : Routine} {scalars : String → Option Int} {buffers : List Buffer}
    {place : Nat} {declared : Argument} {buffer : Buffer} {extents : List (Option Int)}
    (positioned : routine.Positioned) (isArgument : routine.arguments[place]? = some declared)
    (isBuffer : buffers[place]? = some buffer) (isChecked : declared.isChecked)
    (ranked : declared.acceptsRank buffer)
    (spans : List.Forall₂ (Bound.Spans (routine.valueOf scalars buffers)) declared.bounds extents)
    (empty : some 0 ∈ extents) :
    (StaysInWord extents → Passes (routine.valueOf scalars buffers) (declared, buffer) ∧
      ∀ fault, routine.validate scalars buffers ≠
        .error (.refused (routine.refusal (place + 1) fault))) ∧
    (¬ StaysInWord extents →
      (routine.validate scalars buffers =
          .error (.refused (routine.refusal (place + 1) .conversion)) ↔
        ∀ earlier ∈ (routine.arguments.zip buffers).take place,
          Passes (routine.valueOf scalars buffers) earlier)) := by
  have listed : (routine.arguments.zip buffers)[place]? = some (declared, buffer) :=
    List.getElem?_zip_eq_some.mpr ⟨isArgument, isBuffer⟩
  obtain ⟨passedOver, refused⟩ := checkShape_of_empty ranked spans empty
  constructor
  · intro stays
    refine ⟨fun _ => passedOver stays, fun fault blamed => ?_⟩
    obtain ⟨-, pair, listedToo, -, failed⟩ := (validate_blames_iff positioned).mp blamed
    obtain rfl := Option.some.inj (listed.symm.trans listedToo)
    rw [passedOver stays] at failed
    cases failed
  · intro leaves
    rw [validate_blames_iff positioned]
    exact and_iff_left ⟨_, listed, isChecked, refused leaves⟩

/-- A block with three extents, each counted from one. -/
def block (first second third : String) : Routine :=
  (subroutine "block").arg
    { name := "b", type := .real, bounds := [⟨"1", first⟩, ⟨"1", second⟩, ⟨"1", third⟩] }

/-- A value with eight elements. -/
def cube : Buffer :=
  { position := 0, rank := 3, shape := [2, 2, 2], value := none }

/-- A block without elements, its zero extent between the others. -/
def zeroInside : Routine := block "1099511627776" "0" "1099511627776"

/-- A block of the same extents, the zero behind the others. -/
def zeroLast : Routine := block "1099511627776" "1099511627776" "0"

theorem spans_from_one {text : String} {value : Int} (one : evaluate "1" lookup = .ok 1)
    (closed : (Bound.mk "1" text).isAssumed = false) (known : evaluate text lookup = .ok value)
    (fits : fitsWord value) : Bound.Spans lookup ⟨"1", text⟩ (some value) :=
  ⟨closed, value, 1, known, one, by omega, fits⟩

theorem validate_of_empty_zeroInside :
    zeroInside.Positioned ∧ StaysInWord [some 0x10000000000, some 0, some 0x10000000000] ∧
    ∀ fault, zeroInside.validate (fun _ => none) [cube] ≠
      .error (.refused (zeroInside.refusal 1 fault)) := by
  have positioned : zeroInside.Positioned := positioned_foldl_arg rfl [_]
  have stays : StaysInWord [some 0x10000000000, some 0, some 0x10000000000] := by
    refine ⟨by decide, fun count => ?_⟩
    cases count with
    | zero => decide
    | succ count =>
        show fitsWord (0x10000000000 :: List.take count []).prod
        rw [List.take_nil]
        decide
  obtain ⟨wide, zero, one⟩ :
      evaluate "1099511627776" (zeroInside.valueOf (fun _ => none) [cube]) = .ok 0x10000000000 ∧
      evaluate "0" (zeroInside.valueOf (fun _ => none) [cube]) = .ok 0 ∧
      evaluate "1" (zeroInside.valueOf (fun _ => none) [cube]) = .ok 1 := by
    decide +kernel
  exact ⟨positioned, stays, ((validate_of_empty positioned rfl rfl rfl rfl
    (.cons (spans_from_one one rfl wide rfl) (.cons (spans_from_one one rfl zero rfl)
      (.cons (spans_from_one one rfl wide rfl) .nil))) (by decide)).1 stays).2⟩

/-- **An array without elements that is refused.** All of its extents are words, one of them is zero,
and its rank is accepted; but the product of the two extents before the zero is no word. -/
theorem zeroLast_refused :
    zeroLast.Positioned ∧
    (∃ declared, zeroLast.arguments = [declared] ∧ declared.isChecked ∧ declared.acceptsRank cube ∧
      List.Forall₂ (Bound.Spans (zeroLast.valueOf (fun _ => none) [cube])) declared.bounds
        [some 0x10000000000, some 0x10000000000, some 0]) ∧
    zeroLast.validate (fun _ => none) [cube] =
      .error (.refused (zeroLast.refusal 1 .conversion)) := by
  obtain ⟨wide, zero, one, refused⟩ :
      evaluate "1099511627776" (zeroLast.valueOf (fun _ => none) [cube]) = .ok 0x10000000000 ∧
      evaluate "0" (zeroLast.valueOf (fun _ => none) [cube]) = .ok 0 ∧
      evaluate "1" (zeroLast.valueOf (fun _ => none) [cube]) = .ok 1 ∧
      zeroLast.validate (fun _ => none) [cube] =
        .error (.refused (zeroLast.refusal 1 .conversion)) := by
    decide +kernel
  exact ⟨positioned_foldl_arg rfl [_], ⟨_, rfl, rfl, rfl, .cons (spans_from_one one rfl wide rfl)
    (.cons (spans_from_one one rfl wide rfl) (.cons (spans_from_one one rfl zero rfl) .nil))⟩, refused⟩

end Routine

end ForeignGlue
