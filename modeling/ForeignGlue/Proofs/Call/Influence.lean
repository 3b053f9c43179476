/-
**Which arguments a check depends on.**

The values of some arguments are looked up while shapes are checked, and a wrapper lists them: its
`sizingArguments`. If a bare number that is passed for any other argument is replaced by another one,
then the call goes through as before or fails as before, since only names in bounds are looked up.

The list leaves out complex arguments, which have no size to give. The check does look them up,
though: an integer that is passed for a complex argument sizes the arguments whose bounds name it
(`complex_sizes_vector`). So the law is about those that no bound names (`check_set_of_unlisted`).

* `convertAll_set`: another number gives the same buffers, up to that number;
* `checkShapes_congr`: the check of all shapes depends on shapes and on the names in bounds;
* `find?_position_ne`: no such name stands for an argument that is not listed.
-/

import ForeignGlue.Proofs.Expression.Mentions
import ForeignGlue.Proofs.Generation.Resolution

namespace ForeignGlue

open ForeignGlue.Expression
open ForeignGlue.Text

/-! ### Buffers -/

/-- The buffer of another number. -/
def Buffer.withValue (value : Int) (buffer : Buffer) : Buffer :=
  { buffer with value := some value }

theorem Argument.convert_int (declared : Argument) (given other : Int) :
    declared.convert (.int other) = (declared.convert (.int given)).map (Buffer.withValue other) := by
  unfold convert
  cases declared.type <;> rfl

namespace Routine

variable {routine : Routine} {arguments : List Argument} {values : List HostValue} {place : Nat}
  {given : Int}

theorem convertAll_set (bare : values[place]? = some (.int given)) (other : Int) :
    routine.convertAll arguments (values.set place (.int other)) =
      (routine.convertAll arguments values).map fun buffers =>
        buffers.modify place (Buffer.withValue other) := by
  induction arguments generalizing values place with
  | nil => cases place <;> rfl
  | cons declared arguments ih =>
      cases values with
      | nil => cases bare
      | cons value values =>
          cases place with
          | zero =>
              obtain rfl : value = .int given := Option.some.inj bare
              rw [List.set_cons_zero, convertAll, convertAll, declared.convert_int given other]
              cases declared.convert (.int given) with
              | error fault => rfl
              | ok buffer => cases routine.convertAll arguments values <;> rfl
          | succ place =>
              have later : values[place]? = some (.int given) := bare
              rw [List.set_cons_succ, convertAll, convertAll, ih later]
              cases declared.convert value with
              | error fault => rfl
              | ok buffer => cases routine.convertAll arguments values <;> rfl

theorem convert_set (bare : values[place]? = some (.int given)) (other : Int) :
    routine.convert (values.set place (.int other)) =
      (routine.convert values).map fun buffers => buffers.modify place (Buffer.withValue other) := by
  rw [convert, convert, List.length_set]
  split
  · exact convertAll_set bare other
  · rfl

end Routine

/-! ### What shapes are checked with -/

section Shapes

variable {lookup other : String → Option Int}

theorem extent_congr {bound : Bound}
    (same : bound.isAssumed = false → ∀ name, bound.Mentions name → lookup name = other name) :
    bound.extent lookup = bound.extent other := by
  cases assumed : bound.isAssumed with
  | true => rw [Bound.extent, Bound.extent, assumed, if_pos rfl, if_pos rfl]
  | false =>
      have high : boundValue lookup bound.high = boundValue other bound.high := by
        rw [boundValue, boundValue, evaluate_congr fun name member => same assumed name (.inr member)]
      have low : boundValue lookup bound.low = boundValue other bound.low := by
        rw [boundValue, boundValue, evaluate_congr fun name member => same assumed name (.inl member)]
      rw [Bound.extent, Bound.extent, high, low]

theorem extentsOf_congr {bounds : List Bound}
    (same : ∀ bound ∈ bounds, bound.isAssumed = false → ∀ name, bound.Mentions name →
      lookup name = other name) :
    extentsOf lookup bounds = extentsOf other bounds := by
  induction bounds with
  | nil => rfl
  | cons bound bounds ih =>
      obtain ⟨here, later⟩ := List.forall_mem_cons.mp same
      unfold extentsOf at ih ⊢
      rw [List.mapM_cons, List.mapM_cons, extent_congr here, ih later]

/-- A buffer is checked by its rank and shape, and a bound is read by its names unless it is left
open. -/
theorem checkShape_congr {declared : Argument} {buffer moved : Buffer} (rank : buffer.rank = moved.rank)
    (shape : buffer.shape = moved.shape)
    (same : ∀ bound ∈ declared.bounds, bound.isAssumed = false → ∀ name, bound.Mentions name →
      lookup name = other name) :
    declared.checkShape lookup buffer = declared.checkShape other moved := by
  have mismatch (extents : List (Option Int)) : buffer.mismatch? declared.rank extents =
      moved.mismatch? declared.rank extents := by
    unfold Buffer.mismatch? Buffer.matches
    rw [rank, shape]
  rw [checkShape_eq, checkShape_eq, rank, extentsOf_congr same]
  simp only [mismatch]

/-- Two checks of an argument that come out alike. -/
structure ChecksAlike (lookup other : String → Option Int) (first second : Argument × Buffer) :
    Prop where
  declared : first.1 = second.1
  rank : first.2.rank = second.2.rank
  shape : first.2.shape = second.2.shape
  same : first.1.isChecked → ∀ bound ∈ first.1.bounds, bound.isAssumed = false → ∀ name,
    bound.Mentions name → lookup name = other name

theorem Routine.checkShapes_congr {routine : Routine} {current : Nat}
    {pairs others : List (Argument × Buffer)}
    (alike : List.Forall₂ (ChecksAlike lookup other) pairs others) :
    routine.checkShapes lookup current pairs = routine.checkShapes other current others := by
  induction alike generalizing current with
  | nil => rfl
  | @cons first second pairs others here _ ih =>
      obtain ⟨declared, buffer⟩ := first
      obtain ⟨_, moved⟩ := second
      obtain ⟨rfl, rank, shape, same⟩ := here
      rw [checkShapes, checkShapes]
      cases isChecked : declared.isChecked with
      | false => exact ih
      | true =>
          rw [checkShape_congr rank shape (same isChecked)]
          cases declared.checkShape other moved with
          | error fault => rfl
          | ok _ => exact ih

end Shapes

/-! ### Arguments that are not listed -/

namespace Routine

/-- The names that are looked up when shapes are checked: those in the closed bounds of checked
arguments. -/
def Evaluates (routine : Routine) (name : String) : Prop :=
  ∃ declared ∈ routine.arguments, declared.isChecked = true ∧
    ∃ bound ∈ declared.bounds, bound.isAssumed = false ∧ bound.Mentions name

variable {routine : Routine} {scalars : String → Option Int} {values : List HostValue} {place : Nat}
  {given : Int} {buffers : List Buffer}

theorem zip_modify (arguments : List Argument) (buffers : List Buffer) (value : Int)
    {lookup other : String → Option Int}
    (same : ∀ declared ∈ arguments, declared.isChecked → ∀ bound ∈ declared.bounds,
      bound.isAssumed = false → ∀ name, bound.Mentions name → lookup name = other name) :
    List.Forall₂ (ChecksAlike lookup other)
      (arguments.zip (buffers.modify place (Buffer.withValue value))) (arguments.zip buffers) := by
  rw [List.forall₂_iff_get]
  refine ⟨by simp, fun index inside insideToo => ?_⟩
  rw [List.get_eq_getElem, List.get_eq_getElem, List.getElem_zip, List.getElem_zip, List.getElem_modify]
  refine ⟨rfl, ?_, ?_, same _ (List.getElem_mem _)⟩
  · dsimp only
    split <;> rfl
  · dsimp only
    split <;> rfl

/-- A number matters only to names that stand for its argument. -/
theorem valueOf_modify {name : String} (change : Buffer → Buffer)
    (elsewhere : ∀ declared, routine.find? name = some declared → declared.position ≠ place) :
    routine.valueOf scalars (buffers.modify place change) name =
      routine.valueOf scalars buffers name := by
  rw [valueOf, valueOf]
  cases found : routine.find? name with
  | none => rfl
  | some declared =>
      have apart : place ≠ declared.position := (elsewhere declared found).symm
      rw [Option.bind_some, Option.bind_some, List.getElem?_modify_ne _ _ apart]

/-- **An argument that takes a number, is not listed and is not complex** goes under no name of a
bound. -/
theorem find?_position_ne (positioned : routine.Positioned) (bare : values[place]? = some (.int given))
    (taken : ∀ call ∈ routine.arguments.zip values, call.1.Takes call.2)
    (unlisted : ∀ sizing ∈ routine.sizingArguments, sizing.position ≠ place)
    {name : String} (used : name ∈ routine.boundNames) {declared : Argument}
    (found : routine.find? name = some declared)
    (real : declared.position = place → declared.type ≠ .complex) : declared.position ≠ place := by
  intro here
  obtain ⟨index, listed⟩ := List.mem_iff_getElem?.mp (List.mem_of_find?_eq_some found)
  obtain rfl : index = place := (position_of_getElem? positioned listed).symm.trans here
  have takes : declared.Takes (.int given) :=
    taken (declared, .int given)
      (List.mem_iff_getElem?.mpr ⟨index, List.getElem?_zip_eq_some.mpr ⟨listed, bare⟩⟩)
  have sizing : declared.isSizing = true := by
    have notComplex := real here
    unfold Argument.Takes at takes
    unfold Argument.isSizing
    cases type : declared.type with
    | complex => exact absurd type notComplex
    | character => simp [type, HostValue.element?] at takes
    | record label => simp [type] at takes
    | _ => rfl
  exact unlisted declared ((mem_sizingArguments positioned).mpr ⟨⟨name, used, found⟩, sizing⟩) here

/-- **Only sizing arguments matter to a check.** Where a bare number is passed for an argument that is
not listed as sizing others, and that is no complex argument whose name is looked up, any other number
makes no difference: the call is refused with the same error, or it goes through with the same buffers
up to that number. -/
theorem check_set_of_unlisted (positioned : routine.Positioned)
    (bare : values[place]? = some (.int given))
    (unlisted : ∀ sizing ∈ routine.sizingArguments, sizing.position ≠ place)
    (real : ∀ name, routine.Evaluates name → ∀ declared, routine.find? name = some declared →
      declared.position = place → declared.type ≠ .complex) (other : Int) :
    routine.check scalars (values.set place (.int other)) =
      (routine.check scalars values).map fun buffers =>
        buffers.modify place (Buffer.withValue other) := by
  rw [check, check, convert_set bare]
  cases converted : routine.convert values with
  | error error => rfl
  | ok buffers =>
      obtain ⟨-, taken, -⟩ := convert_eq_ok_iff.mp converted
      have sameValues (declared : Argument) (declares : declared ∈ routine.arguments)
          (checked : declared.isChecked) (bound : Bound) (bounded : bound ∈ declared.bounds)
          (closed : bound.isAssumed = false) (name : String) (mentioned : bound.Mentions name) :
          routine.valueOf scalars (buffers.modify place (Buffer.withValue other)) name =
            routine.valueOf scalars buffers name := by
        have used := mem_boundNames declares checked bounded mentioned
        have evaluates : routine.Evaluates name :=
          ⟨declared, declares, checked, bound, bounded, closed, mentioned⟩
        exact valueOf_modify _ fun sizing found => find?_position_ne positioned bare taken unlisted
          used found (real name evaluates sizing found)
      have validated : routine.validate scalars (buffers.modify place (Buffer.withValue other)) =
          routine.validate scalars buffers := by
        rw [validate, validate, List.length_modify]
        exact checkShapes_congr (zip_modify _ _ _ sameValues)
      show (do let _ ← routine.validate scalars (buffers.modify place (Buffer.withValue other)); _) = _
      rw [validated]
      show _ = Except.map _ (do let _ ← routine.validate scalars buffers; _)
      cases routine.validate scalars buffers <;> rfl

/-- A vector that one argument sizes, a weight and a complex number. -/
def blend : Routine :=
  [{ name := "x", type := .real, bounds := [⟨"0", "N - 1"⟩] }, { name := "n", type := .integer },
    { name := "weight", type := .double },
    { name := "z", type := .complex }].foldl arg (subroutine "blend")

/-- The values of a call of `blend` with an integer for the complex number. -/
def blendCall (z : Int) : List HostValue :=
  [.array .real [4], .int 4, .int 7, .int z]

/-- The only name in a bound is that of the second argument, so the last one can be set to anything. -/
theorem check_set_of_unlisted_blend :
    blend.sizingArguments.map Argument.position = [1] ∧
    (blend.check (fun _ => none) (blendCall 2)).isOk ∧
    ∀ z, blend.check (fun _ => none) (blendCall z) =
      (blend.check (fun _ => none) (blendCall 2)).map fun buffers =>
        buffers.modify 3 (Buffer.withValue z) := by
  have positioned : blend.Positioned := positioned_foldl_arg rfl _
  have bare : (blendCall 2)[3]? = some (.int 2) := rfl
  have listed : blend.sizingArguments.map Argument.position = [1] := by decide +kernel
  have unlisted : ∀ sizing ∈ blend.sizingArguments, sizing.position ≠ 3 := by
    intro sizing member
    have position := List.mem_map_of_mem (f := Argument.position) member
    rw [listed, List.mem_singleton] at position
    rw [position]
    decide
  have real : ∀ name, blend.Evaluates name → ∀ declared, blend.find? name = some declared →
      declared.position = 3 → declared.type ≠ .complex := by
    have names : blend.boundNames = ["N"] := by decide +kernel
    have found : (blend.find? "N").map Argument.position = some 1 := by decide +kernel
    rintro name ⟨argument, taken, checked, bound, bounded, -, mentioned⟩ declared isFound here
    have used := mem_boundNames taken checked bounded mentioned
    rw [names, List.mem_singleton] at used
    rw [← used, isFound, Option.map_some, here] at found
    cases found
  exact ⟨listed, by decide +kernel, fun z => check_set_of_unlisted positioned bare unlisted real z⟩

/-- A vector under a bound that names a complex argument. -/
def spread : Routine :=
  [{ name := "x", type := .real, bounds := [⟨"1", "z"⟩] },
    { name := "z", type := .complex }].foldl arg (subroutine "spread")

/-- The module scalar of the same name. -/
def spreadScalars (name : String) : Option Int :=
  if name = "z" then some 5 else none

/-- **A complex argument sizes a vector.** It is not listed, and yet a call goes through or not by the
integer that is passed for it; the module scalar of its name, which a wrapper reads, is not looked at. -/
theorem complex_sizes_vector :
    spread.Positioned ∧ spread.sizingArguments = [] ∧
    (spread.check spreadScalars [.array .real [5], .int 5]).isOk ∧
    spread.check spreadScalars [.array .real [5], .int 6] =
      .error (.refused (spread.refusal 1 (.wrongDimension 1))) := by
  exact ⟨positioned_foldl_arg rfl _, by decide +kernel, by decide +kernel, by decide +kernel⟩

end Routine

end ForeignGlue
