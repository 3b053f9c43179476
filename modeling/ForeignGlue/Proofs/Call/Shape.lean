/-
**Which shapes an argument accepts.**

The check of a shape is a sequence of early exits. What it accepts can be said without them:

* `Bound.Declares`: the extent that a pair of bounds declares;
* `Argument.Fits`: the shapes that go with all declared extents of an argument;
* `checkShape_eq_ok_iff`: the check accepts exactly the shapes that fit;
* `checkShape_refused`: where it does not, and the bounds are readable, the argument is refused.
-/

import ForeignGlue.Call.Model
import ForeignGlue.Proofs.HostForm.Marks
import ForeignGlue.Proofs.Outcome
import Mathlib.Algebra.Ring.Int.Defs

namespace ForeignGlue

open ForeignGlue.Text
open ForeignGlue.Expression

variable {lookup : String → Option Int}

/-! ### Declared extents -/

/-- The extent that a pair of bounds declares: none if the upper one is left open. The distance of
the bounds and the extent, which is one more, are both words. -/
def Bound.Declares (lookup : String → Option Int) (bound : Bound) : Option Int → Prop
  | none => bound.isAssumed
  | some extent => bound.isAssumed = false ∧ ∃ high low, evaluate bound.high lookup = .ok high ∧
      evaluate bound.low lookup = .ok low ∧ fitsWord (high - low) ∧ fitsWord (high - low + 1) ∧
      extent = high - low + 1

theorem boundValue_eq_ok_iff {expression : String} {value : Int} :
    boundValue lookup expression = .ok value ↔ evaluate expression lookup = .ok value := by
  unfold boundValue
  split <;> simp_all

theorem inWord_eq_ok_iff {value result : Int} :
    inWord value = .ok result ↔ fitsWord value ∧ value = result := by
  unfold inWord
  split <;> simp_all

/-- The extent of a bound is the one that it declares. -/
theorem extent_eq_ok_iff {bound : Bound} {extent : Option Int} :
    bound.extent lookup = .ok extent ↔ bound.Declares lookup extent := by
  unfold Bound.extent
  cases assumed : bound.isAssumed with
  | true =>
      cases extent <;> simp [Bound.Declares, assumed]
  | false =>
      simp only [Bool.false_eq_true, if_false, bind_eq_ok_iff, boundValue_eq_ok_iff, inWord_eq_ok_iff]
      constructor
      · rintro ⟨high, isHigh, low, isLow, span, ⟨spanFits, rfl⟩, _, ⟨fits, rfl⟩, same⟩
        obtain rfl := Except.ok.inj same
        exact ⟨assumed, high, low, isHigh, isLow, spanFits, fits, rfl⟩
      · intro declares
        cases extent with
        | none => exact absurd declares (by simp [Bound.Declares, assumed])
        | some extent =>
            obtain ⟨-, high, low, isHigh, isLow, spanFits, fits, rfl⟩ := declares
            exact ⟨high, isHigh, low, isLow, _, ⟨spanFits, rfl⟩, _, ⟨fits, rfl⟩, rfl⟩

theorem extentsOf_eq_ok_iff {bounds : List Bound} {extents : List (Option Int)} :
    extentsOf lookup bounds = .ok extents ↔
      List.Forall₂ (Bound.Declares lookup) bounds extents := by
  unfold extentsOf
  simp only [mapM_eq_ok_iff, extent_eq_ok_iff]

/-! ### The number of elements -/

/-- The extents that are known. -/
def knownExtents (extents : List (Option Int)) : List Int :=
  extents.filterMap id

/-- The products of the first extents, however many, are words. -/
def ProductsFit (factors : List Int) : Prop :=
  ∀ count, fitsWord (factors.take count).prod

/-- A product is computed if all products on the way fit a word. -/
theorem foldlM_inWord_eq_ok_iff {factors : List Int} {start total : Int} (fits : fitsWord start) :
    factors.foldlM (fun total factor => inWord (total * factor)) start = .ok total ↔
      (∀ count, fitsWord (start * (factors.take count).prod)) ∧ total = start * factors.prod := by
  induction factors generalizing start with
  | nil =>
      simp only [List.foldlM_nil, List.take_nil, List.prod_nil, Int.mul_one, fits, implies_true, true_and]
      exact ⟨fun same => (Except.ok.inj same).symm, fun same => congrArg _ same.symm⟩
  | cons factor factors ih =>
      simp only [List.foldlM_cons, bind_eq_ok_iff, inWord_eq_ok_iff]
      constructor
      · rintro ⟨_, ⟨nextFits, rfl⟩, rest⟩
        obtain ⟨laterFit, rfl⟩ := (ih nextFits).mp rest
        refine ⟨fun count => ?_, by rw [List.prod_cons, Int.mul_assoc]⟩
        cases count with
        | zero => simpa using fits
        | succ count =>
            rw [List.take_succ_cons, List.prod_cons, ← Int.mul_assoc]
            exact laterFit count
      · rintro ⟨allFit, rfl⟩
        have nextFits : fitsWord (start * factor) := by simpa using allFit 1
        refine ⟨_, ⟨nextFits, rfl⟩, (ih nextFits).mpr ⟨fun count => ?_, ?_⟩⟩
        · have here := allFit (count + 1)
          rwa [List.take_succ_cons, List.prod_cons, ← Int.mul_assoc] at here
        · rw [List.prod_cons, Int.mul_assoc]

/-- **The number of elements**: the product of the known extents. -/
theorem elementTotal_eq_ok_iff {extents : List (Option Int)} {total : Int} :
    elementTotal extents = .ok total ↔ ProductsFit (knownExtents extents) ∧
      total = (knownExtents extents).prod := by
  unfold elementTotal ProductsFit
  rw [foldlM_inWord_eq_ok_iff (by decide)]
  simp only [Int.one_mul]
  rfl

/-! ### Agreement with a shape -/

/-- A shape has every known extent at its axis. -/
def ShapeAgrees (extents : List (Option Int)) (shape : List Nat) : Prop :=
  ∀ (axis : Nat) (extent : Int), extents[axis]? = some (some extent) →
    0 ≤ extent ∧ shape[axis]? = some extent.toNat

theorem map_ofNat_eq_some_iff {length : Option Nat} {extent : Int} :
    length.map Int.ofNat = some extent ↔ 0 ≤ extent ∧ length = some extent.toNat := by
  rw [Option.map_eq_some_iff]
  constructor
  · rintro ⟨count, rfl, rfl⟩
    exact ⟨Int.natCast_nonneg count, by simp⟩
  · rintro ⟨positive, rfl⟩
    exact ⟨_, rfl, Int.toNat_of_nonneg positive⟩

/-- An axis matches its extent, a single value counting as a vector of any length. -/
theorem matches_iff {buffer : Buffer} {rank axis : Nat} {extent : Int} :
    buffer.matches rank axis extent ↔ rank = 1 ∧ buffer.rank = 0 ∨
      0 ≤ extent ∧ buffer.shape[axis]? = some extent.toNat := by
  simp only [Buffer.matches, Bool.or_eq_true, Bool.and_eq_true, beq_iff_eq, map_ofNat_eq_some_iff]

/-- **No axis is at fault** exactly if the shapes agree. -/
theorem mismatch?_eq_none_iff {buffer : Buffer} {rank : Nat} {extents : List (Option Int)} :
    buffer.mismatch? rank extents = none ↔
      rank = 1 ∧ buffer.rank = 0 ∨ ShapeAgrees extents buffer.shape := by
  have axes : buffer.mismatch? rank extents = none ↔ ∀ (axis : Nat) (extent : Int),
      extents[axis]? = some (some extent) → buffer.matches rank axis extent := by
    simp only [Buffer.mismatch?, Option.map_eq_none_iff, List.findIdx?_eq_none_iff,
      List.mem_iff_getElem?, List.getElem?_mapIdx, Option.map_eq_some_iff, Bool.not_eq_false']
    constructor
    · intro agrees axis extent declared
      exact agrees _ ⟨axis, some extent, declared, rfl⟩
    · rintro agrees _ ⟨axis, extent, declared, rfl⟩
      cases extent with
      | none => rfl
      | some extent => exact agrees axis extent declared
  rw [axes]
  by_cases bare : rank = 1 ∧ buffer.rank = 0
  · simp [matches_iff, bare]
  · simp only [matches_iff, bare, false_or]
    rfl

/-! ### The check -/

/-- **The shapes that an argument accepts.** -/
structure Argument.Fits (declared : Argument) (lookup : String → Option Int) (shape : List Nat) :
    Prop where
  /-- The rank is the declared one, or a bare value stands for an array with one dimension. -/
  rank : shape.length = declared.rank ∨ declared.rank = 1 ∧ shape.length = 0
  /-- The bounds declare extents. If there are elements at all, the shape of an array has them. -/
  extents : ∃ extents, List.Forall₂ (Bound.Declares lookup) declared.bounds extents ∧
    ProductsFit (knownExtents extents) ∧
    ((knownExtents extents).prod = 0 ∨ declared.rank = 1 ∧ shape.length = 0 ∨
      ShapeAgrees extents shape)

/-- The check, one condition after the other. -/
theorem checkShape_eq {declared : Argument} {buffer : Buffer} :
    declared.checkShape lookup buffer =
      if buffer.rank = declared.rank ∨ declared.rank = 1 ∧ buffer.rank = 0 then do
        let extents ← (extentsOf lookup declared.bounds).mapError ExtentFault.shapeFault
        let total ← (elementTotal extents).mapError ExtentFault.shapeFault
        if total = 0 then .ok ()
        else
          match buffer.mismatch? declared.rank extents with
          | none => .ok ()
          | some dimension => .error (.call (.wrongDimension dimension))
      else .error (.call .wrongRank) := by
  unfold Argument.checkShape
  by_cases rank : buffer.rank = declared.rank ∨ declared.rank = 1 ∧ buffer.rank = 0
  · have accepted : (buffer.rank == declared.rank || (declared.rank == 1 && buffer.rank == 0)) = true := by
      simpa using rank
    rw [accepted, if_pos rank]
    simp
    rfl
  · have refused : (buffer.rank == declared.rank || (declared.rank == 1 && buffer.rank == 0)) = false := by
      simpa using rank
    rw [refused, if_neg rank]
    rfl

/-- **The check accepts exactly the shapes that fit.** -/
theorem checkShape_eq_ok_iff {declared : Argument} {buffer : Buffer}
    (ranked : buffer.rank = buffer.shape.length) :
    declared.checkShape lookup buffer = .ok () ↔ declared.Fits lookup buffer.shape := by
  have agreement (extents : List (Option Int)) :
      (match buffer.mismatch? declared.rank extents with
        | none => Except.ok ()
        | some dimension => .error (ShapeFault.call (.wrongDimension dimension))) = .ok () ↔
      declared.rank = 1 ∧ buffer.shape.length = 0 ∨ ShapeAgrees extents buffer.shape := by
    rw [← ranked, ← mismatch?_eq_none_iff]
    split <;> simp_all
  rw [checkShape_eq]
  by_cases rank : buffer.rank = declared.rank ∨ declared.rank = 1 ∧ buffer.rank = 0
  · simp only [if_pos rank, bind_eq_ok_iff, mapError_eq_ok_iff, extentsOf_eq_ok_iff,
      elementTotal_eq_ok_iff]
    rw [ranked] at rank
    constructor
    · rintro ⟨extents, declares, _, ⟨productsFit, rfl⟩, agrees⟩
      refine ⟨rank, extents, declares, productsFit, ?_⟩
      split at agrees
      · next empty => exact .inl empty
      · exact .inr ((agreement extents).mp agrees)
    · rintro ⟨-, extents, declares, productsFit, agrees⟩
      refine ⟨extents, declares, _, ⟨productsFit, rfl⟩, ?_⟩
      split
      · rfl
      · next filled => exact (agreement extents).mpr (agrees.resolve_left filled)
  · rw [if_neg rank]
    rw [ranked] at rank
    constructor
    · intro same
      cases same
    · intro fits
      exact absurd fits.rank rank

/-! ### Refusals -/

/-- A text of ASCII characters has ASCII symbols. -/
theorem isReadable_of_ascii {expression : String} (ascii : expression.toList.all isAscii) :
    isReadable expression := by
  rw [isReadable, lexemes_eq_filter_marks, List.all_eq_true]
  intro mark member
  cases mark with
  | number digits => rfl
  | name label => rfl
  | symbol c =>
      refine List.all_eq_true.mp ascii c ?_
      rw [← flatMap_chars_marks]
      exact List.mem_flatMap.mpr ⟨.symbol c, (List.mem_filter.mp member).1, List.mem_cons_self⟩

/-- Bounds that hold ASCII characters only. -/
def Bound.IsAscii (bound : Bound) : Prop :=
  bound.low.toList.all isAscii ∧ bound.high.toList.all isAscii

theorem boundValue_ne_unreadable {expression : String} (ascii : expression.toList.all isAscii) :
    boundValue lookup expression ≠ .error .unreadable := by
  unfold boundValue
  rw [evaluate, if_pos (isReadable_of_ascii ascii)]
  cases evaluateReadable expression lookup with
  | ok value => simp [Except.mapError]
  | error fault => cases fault <;> simp [Except.mapError, Fault.inExpression]

theorem inWord_ne_unreadable {value : Int} : inWord value ≠ .error .unreadable := by
  unfold inWord
  split <;> simp

theorem extent_ne_unreadable {bound : Bound} (ascii : bound.IsAscii) :
    bound.extent lookup ≠ .error .unreadable := by
  unfold Bound.extent
  split
  · simp
  · simp only [ne_eq, bind_eq_error_iff, boundValue_ne_unreadable ascii.1,
      boundValue_ne_unreadable ascii.2, inWord_ne_unreadable, false_or, not_exists, not_and]
    rintro high - low - span - extent - same
    cases same

theorem elementTotal_ne_unreadable {extents : List (Option Int)} :
    elementTotal extents ≠ .error .unreadable := by
  unfold elementTotal
  generalize (1 : Int) = start
  induction extents.filterMap id generalizing start with
  | nil => exact fun same => nomatch same
  | cons factor factors ih =>
      simp only [List.foldlM_cons, ne_eq, bind_eq_error_iff, inWord_ne_unreadable, false_or,
        not_exists, not_and]
      exact fun total _ => ih total

/-- A shape that is not accepted, its bounds being ASCII texts, is a fault of the call. -/
theorem checkShape_refused {declared : Argument} {buffer : Buffer} {fault : ShapeFault}
    (ascii : ∀ bound ∈ declared.bounds, bound.isAssumed = false → bound.IsAscii)
    (failed : declared.checkShape lookup buffer = .error fault) : ∃ cause, fault = .call cause := by
  have renamed : ∀ {cause : ExtentFault}, cause ≠ .unreadable →
      ∃ refused, cause.shapeFault = .call refused := by
    intro cause readable
    cases cause with
    | noValue => exact ⟨_, rfl⟩
    | unreadable => exact absurd rfl readable
  rw [checkShape_eq] at failed
  split at failed
  · rcases bind_eq_error_iff.mp failed with noExtents | ⟨extents, -, failed⟩
    · obtain ⟨cause, extentsFailed, rfl⟩ := mapError_eq_error_iff.mp noExtents
      obtain ⟨bound, member, extentFailed⟩ := mem_of_mapM_eq_error extentsFailed
      refine renamed ?_
      rintro rfl
      cases assumed : bound.isAssumed with
      | true =>
          rw [Bound.extent, assumed] at extentFailed
          cases extentFailed
      | false => exact extent_ne_unreadable (ascii bound member assumed) extentFailed
    · rcases bind_eq_error_iff.mp failed with noTotal | ⟨total, -, failed⟩
      · obtain ⟨cause, totalFailed, rfl⟩ := mapError_eq_error_iff.mp noTotal
        refine renamed ?_
        rintro rfl
        exact elementTotal_ne_unreadable totalFailed
      · split at failed
        · cases failed
        · split at failed
          · cases failed
          · exact ⟨_, (Except.error.inj failed).symm⟩
  · exact ⟨_, (Except.error.inj failed).symm⟩

end ForeignGlue
