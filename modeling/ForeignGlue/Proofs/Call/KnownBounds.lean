/-
**Shape checks, bound by bound.**

The check of a shape goes over lists of extents, some of which are left open. Only the bounds that are
not left open matter, and each has its own size:

* `Argument.knownBounds`: the bounds that are not left open, with their dimensions;
* `Bound.size`: the extent that a bound declares;
* `mismatch?_eq_wrongBound?`: the dimension that is refused is the first whose size is not that of the
  buffer;
* `checkShape_cases`: what the check of an argument can end with, unless its bounds have no value.
-/

import ForeignGlue.Proofs.Call.Shape

namespace ForeignGlue

variable {lookup : String → Option Int}

/-- The places of the items of a list. -/
theorem map_fst_mapIdx {α : Type} (items : List α) :
    (items.mapIdx fun place item => (place, item)).map Prod.fst = List.range items.length := by
  refine List.ext_getElem (by simp) fun place _ _ => ?_
  simp

theorem map_snd_mapIdx {α : Type} (items : List α) :
    (items.mapIdx fun place item => (place, item)).map Prod.snd = items := by
  refine List.ext_getElem (by simp) fun place _ _ => ?_
  simp

/-- The bounds that are not left open, with their dimensions. -/
def Argument.knownBounds (argument : Argument) : List (Nat × Bound) :=
  (argument.bounds.mapIdx fun dimension bound => (dimension, bound)).filter
    fun (_, bound) => !bound.isAssumed

theorem Argument.getElem?_bounds_of_known {argument : Argument} {known : Nat × Bound}
    (member : known ∈ argument.knownBounds) :
    argument.bounds[known.1]? = some known.2 ∧ known.2.isAssumed = false := by
  obtain ⟨listed, declared⟩ := List.mem_filter.mp member
  obtain ⟨dimension, inside, rfl⟩ := List.mem_mapIdx.mp listed
  exact ⟨List.getElem?_eq_getElem inside, by simpa using declared⟩

/-- The extent that a bound declares, zero if it declares none. -/
def Bound.size (lookup : String → Option Int) (bound : Bound) : Int :=
  match bound.extent lookup with
  | .ok (some extent) => extent
  | _ => 0

theorem size_of_declares {bound : Bound} {extent : Int} (declares : bound.Declares lookup (some extent)) :
    bound.size lookup = extent := by
  rw [Bound.size, extent_eq_ok_iff.mpr declares]

/-- The sizes of the known bounds. -/
def Argument.sizes (lookup : String → Option Int) (argument : Argument) : List Int :=
  argument.knownBounds.map fun known => known.2.size lookup

/-- The first known bound whose size a buffer has not. -/
def Argument.wrongBound? (lookup : String → Option Int) (argument : Argument) (buffer : Buffer) :
    Option (Nat × Bound) :=
  argument.knownBounds.find? fun known =>
    !buffer.matches argument.rank known.1 (known.2.size lookup)

/-- The size of a bound, unless it is left open. -/
def Bound.known? (lookup : String → Option Int) (bound : Bound) : Option Int :=
  if bound.isAssumed then none else some (bound.size lookup)

theorem known?_of_declares {bound : Bound} {extent : Option Int}
    (declares : bound.Declares lookup extent) : extent = bound.known? lookup := by
  cases extent with
  | none => exact (if_pos declares).symm
  | some extent =>
      rw [Bound.known?, declares.1, size_of_declares declares]
      rfl

/-- Extents that bounds declare are the sizes of those that are not left open. -/
theorem eq_map_known? {bounds : List Bound} {extents : List (Option Int)}
    (declare : List.Forall₂ (Bound.Declares lookup) bounds extents) :
    extents = bounds.map (Bound.known? lookup) := by
  induction declare with
  | nil => rfl
  | cons declares _ ih => rw [List.map_cons, ← ih, ← known?_of_declares declares]

theorem declares_of_mem {bounds : List Bound} {extents : List (Option Int)}
    (declare : List.Forall₂ (Bound.Declares lookup) bounds extents) {bound : Bound}
    (member : bound ∈ bounds) (closed : bound.isAssumed = false) :
    bound.Declares lookup (some (bound.size lookup)) := by
  induction declare with
  | nil => cases member
  | @cons first extent _ _ declares _ ih =>
      rcases List.mem_cons.mp member with rfl | later
      · have known := known?_of_declares declares
        rw [Bound.known?, closed, if_neg Bool.false_ne_true] at known
        rwa [known] at declares
      · exact ih later

/-- The first bound that fails a test, those left open being passed over. -/
theorem findIdx?_known (test : Nat → Bound → Bool) (bounds : List Bound) :
    ((bounds.mapIdx fun axis bound => bound.isAssumed || test axis bound).findIdx?
        fun agrees => !agrees) =
      (((bounds.mapIdx fun axis bound => (axis, bound)).filter
        fun known => !known.2.isAssumed).find? fun known => !test known.1 known.2).map Prod.fst := by
  induction bounds generalizing test with
  | nil => rfl
  | cons bound bounds ih =>
      have later : ((bounds.mapIdx fun axis bound => bound.isAssumed || test (axis + 1) bound).findIdx?
          fun agrees => !agrees).map (· + 1) =
          (((bounds.mapIdx fun axis bound => (axis + 1, bound)).filter
            fun known => !known.2.isAssumed).find? fun known => !test known.1 known.2).map Prod.fst := by
        have moved : (bounds.mapIdx fun axis bound => (axis + 1, bound)) =
            (bounds.mapIdx fun axis bound => (axis, bound)).map fun known => (known.1 + 1, known.2) := by
          refine List.ext_getElem? fun axis => ?_
          simp [Function.comp_def]
        rw [ih fun axis => test (axis + 1), moved, List.filter_map, List.find?_map, Option.map_map,
          Option.map_map]
        rfl
      rw [List.mapIdx_cons, List.mapIdx_cons, List.findIdx?_cons]
      cases left : bound.isAssumed with
      | true =>
          rw [List.filter_cons_of_neg (by simp [left])]
          exact later
      | false =>
          rw [List.filter_cons_of_pos (by simp [left]), List.find?_cons]
          cases agrees : test 0 bound with
          | false => rfl
          | true => exact later

/-- **The dimension that is refused**: the first whose size is not that of the buffer. -/
theorem mismatch?_eq_wrongBound? {argument : Argument} {extents : List (Option Int)}
    (declare : List.Forall₂ (Bound.Declares lookup) argument.bounds extents) (buffer : Buffer) :
    buffer.mismatch? argument.rank extents = (argument.wrongBound? lookup buffer).map (·.1 + 1) := by
  have searched := findIdx?_known
    (fun axis bound => buffer.matches argument.rank axis (bound.size lookup)) argument.bounds
  have unfolded : buffer.mismatch? argument.rank extents = ((argument.bounds.mapIdx fun axis bound =>
      bound.isAssumed || buffer.matches argument.rank axis (bound.size lookup)).findIdx?
        fun agrees => !agrees).map (· + 1) := by
    unfold Buffer.mismatch?
    refine congrArg (fun outcomes : List Bool => (outcomes.findIdx? fun agrees => !agrees).map (· + 1)) ?_
    rw [eq_map_known? declare]
    refine List.ext_getElem? fun axis => ?_
    rw [List.getElem?_mapIdx, List.getElem?_mapIdx, List.getElem?_map, Option.map_map]
    congr 1
    funext bound
    rw [Function.comp_apply, Bound.known?]
    cases bound.isAssumed <;> rfl
  rw [unfolded, searched, Option.map_map]
  rfl

/-- The known extents are the sizes of the known bounds. -/
theorem knownExtents_eq_map {argument : Argument} {extents : List (Option Int)}
    (declare : List.Forall₂ (Bound.Declares lookup) argument.bounds extents) :
    knownExtents extents = argument.sizes lookup := by
  have bounds : argument.knownBounds.map Prod.snd =
      argument.bounds.filter fun bound => !bound.isAssumed := by
    conv_rhs => rw [← map_snd_mapIdx argument.bounds, List.filter_map]
    rfl
  have sizes : argument.sizes lookup =
      (argument.bounds.filter fun bound => !bound.isAssumed).map (Bound.size lookup) := by
    rw [← bounds, List.map_map]
    rfl
  rw [sizes, eq_map_known? declare, knownExtents, List.filterMap_map, ← List.filterMap_eq_map,
    List.filterMap_filter]
  refine List.filterMap_congr fun bound _ => ?_
  rw [Function.comp_apply, Bound.known?]
  cases bound.isAssumed <;> rfl

/-- Whether the rank of a buffer is the declared one, or a bare value stands for an array with one
dimension. -/
def Argument.acceptsRank (argument : Argument) (buffer : Buffer) : Bool :=
  buffer.rank == argument.rank || (argument.rank == 1 && buffer.rank == 0)

theorem acceptsRank_iff {argument : Argument} {buffer : Buffer} :
    argument.acceptsRank buffer ↔
      buffer.rank = argument.rank ∨ argument.rank = 1 ∧ buffer.rank = 0 := by
  simp only [Argument.acceptsRank, Bool.or_eq_true, Bool.and_eq_true, beq_iff_eq]

/-- **What the check of an argument can end with**, unless its bounds have no value. -/
theorem checkShape_cases {argument : Argument} {buffer : Buffer} {outcome : Except ShapeFault Unit}
    (checked : argument.checkShape lookup buffer = outcome)
    (valued : outcome ≠ .error (.call .conversion)) (readable : outcome ≠ .error .unreadable) :
    argument.acceptsRank buffer = false ∧ outcome = .error (.call .wrongRank) ∨
    argument.acceptsRank buffer = true ∧
      (∀ known ∈ argument.knownBounds, known.2.Declares lookup (some (known.2.size lookup))) ∧
      ProductsFit (argument.sizes lookup) ∧
      outcome = if (argument.sizes lookup).prod = 0 then .ok ()
        else
          match argument.wrongBound? lookup buffer with
          | none => .ok ()
          | some known => .error (.call (.wrongDimension (known.1 + 1))) := by
  have shown : ∀ cause : ExtentFault, outcome ≠ .error cause.shapeFault := by
    intro cause
    cases cause with
    | noValue => exact valued
    | unreadable => exact readable
  rw [checkShape_eq] at checked
  by_cases ranked : argument.acceptsRank buffer
  · refine .inr ⟨ranked, ?_⟩
    rw [if_pos (acceptsRank_iff.mp ranked)] at checked
    cases valuesOf : extentsOf lookup argument.bounds with
    | error cause =>
        rw [valuesOf] at checked
        exact absurd checked.symm (shown cause)
    | ok extents =>
        have declare := extentsOf_eq_ok_iff.mp valuesOf
        have sizes := knownExtents_eq_map declare
        cases totalOf : elementTotal extents with
        | error cause =>
            rw [valuesOf] at checked
            change (do let total ← (elementTotal extents).mapError ExtentFault.shapeFault; _) = _
              at checked
            rw [totalOf] at checked
            exact absurd checked.symm (shown cause)
        | ok total =>
            obtain ⟨fit, rfl⟩ := elementTotal_eq_ok_iff.mp totalOf
            rw [sizes] at fit
            refine ⟨fun known member => ?_, fit, ?_⟩
            · obtain ⟨listed, closed⟩ := Argument.getElem?_bounds_of_known member
              exact declares_of_mem declare (List.mem_of_getElem? listed) closed
            · rw [← checked, valuesOf, ← sizes]
              change (do let total ← (elementTotal extents).mapError ExtentFault.shapeFault; _) = _
              rw [totalOf, mismatch?_eq_wrongBound? declare]
              cases argument.wrongBound? lookup buffer with
              | none => rfl
              | some known => rfl
  · rw [if_neg fun accepted => ranked (acceptsRank_iff.mpr accepted)] at checked
    exact .inl ⟨(Bool.not_eq_true _).mp ranked, checked.symm⟩

end ForeignGlue
