/-
**Wrappers decide on shapes as the model does.**

The statements that check shapes are run on the buffers of a call. They go through if the model accepts
the buffers, and else jump with the error that the model reports, unless the extent that is refused
differs from the length of its axis by a multiple of two to the 32nd: both are compared as `int`.

* `Follows`: what statements end with against what the model decides, closed under appending.
* `follows_checkCode`: **the step**: the checks of one argument.
* `follows_checks`: **the run**: the checks of all arguments.
* `Context.shapeChecks_decide`: the lines of a wrapper, read as C.
-/

import ForeignGlue.Proofs.Host.CallState

namespace ForeignGlue

open ForeignGlue.CExpression
open ForeignGlue.CSource
open ForeignGlue.Expression (IsWord evaluate isLiteral)
open ForeignGlue.Source
open ForeignGlue.Text

section Runs

variable {ctx : Context} {routine : Routine} {scalars : String → Option Int} {buffers : List Buffer}
  {slots : String → Nat → Int64} {world : World} {callees : Callees} {current : Nat}
  {state : State}

/-! ### Single statements -/

/-- An assignment to a variable of type `int`. -/
theorem run_assign {name : String} {value : Expr} {x : CValue}
    (valued : value.value world state.locals = some (.integer x))
    (declared : ∃ held, state.locals name = some held ∧ HoldsInt held) :
    (Code.assign (.name name) value).run world callees state =
      some (.next, state.set name (.integer (CType.wrap .int x.value))) := by
  obtain ⟨held, isHeld, int⟩ := declared
  rw [Code.run, valued]
  show ((state.locals name).bind _) = _
  rw [isHeld]
  rcases int with rfl | ⟨old, rfl⟩
  · rfl
  · rfl

/-- The report of an error: the wrapper is left, and says which argument is at fault and why. -/
def Reports (result : Option (Exit × State)) (error : CallError) : Prop :=
  ∃ after, result = some (.jump "err", after) ∧
    after.locals "argno" = some (.integer ⟨.int, error.argument⟩) ∧
    after.locals "e" = some (.printed (escape error.message).toList)

/-! ### What checks end with -/

/-- **Statements follow a decision**: where it goes on they do, the number of the argument looked at last
being known of the state, and where it refuses an argument they report the same error. -/
def Follows (invariant : Nat → State → Prop) (outcome : Except CallFailure Nat)
    (result : Option (Exit × State)) : Prop :=
  match outcome with
  | .ok current => ∃ after, result = some (.next, after) ∧ invariant current after
  | .error failure => ∃ error, failure = .refused error ∧ Reports result error

namespace Follows

variable {invariant : Nat → State → Prop} {outcome : Except CallFailure Nat} {codes others : List Code}

theorem append_of_ok
    (first : Follows invariant (.ok current) ((Code.ofList codes).run world callees state))
    (later : ∀ after, invariant current after →
      Follows invariant outcome ((Code.ofList others).run world callees after)) :
    Follows invariant outcome ((Code.ofList (codes ++ others)).run world callees state) := by
  obtain ⟨after, ran, holds⟩ := first
  rw [Code.run_append_of_next ran]
  exact later after holds

theorem append_of_error {failure : CallFailure}
    (first : Follows invariant (.error failure) ((Code.ofList codes).run world callees state))
    (others : List Code) :
    Follows invariant (.error failure)
      ((Code.ofList (codes ++ others)).run world callees state) := by
  obtain ⟨error, isRefused, after, ran, number, message⟩ := first
  exact ⟨error, isRefused, after, Code.run_append_of_jump ran others, number, message⟩

theorem imp {weaker : Nat → State → Prop} {result : Option (Exit × State)}
    (implies : ∀ current state, invariant current state → weaker current state)
    (follows : Follows invariant outcome result) : Follows weaker outcome result := by
  cases outcome with
  | ok current =>
      obtain ⟨after, ran, holds⟩ := follows
      exact ⟨after, ran, implies current after holds⟩
  | error failure => exact follows

end Follows

/-- A test of the argument that is looked at. -/
theorem follows_refusal {condition : Expr} {fault : CallFault} {holds : Bool}
    (truth : condition.truth? world state.locals = some holds)
    (prepared : Prepared routine buffers current state) :
    Follows (Prepared routine buffers)
      (if holds then .ok current else .error (.refused (routine.refusal current fault)))
      ((Code.ofList [refusalCode condition (routine.refusal current fault)]).run world callees
        state) := by
  rw [Code.run_singleton, refusalCode, Code.run, Expr.truth?_negation truth]
  cases holds with
  | true => exact ⟨state, rfl, prepared⟩
  | false => exact ⟨_, rfl, _, rfl, prepared.number, rfl⟩

/-! ### The extents of an argument -/

/-- **One extent**: it passes or is refused as `Buffer.passes` says. -/
theorem follows_extentCode (memory : world.memory = callMemory buffers slots) {index rank : Nat}
    {buffer : Buffer} {known : Nat × Bound} {size : Int} {type : CType}
    (prepared : Prepared routine buffers (index + 1) state) (found : buffers[index]? = some buffer)
    (valued : (ctx.boundExpr routine known.2).value world state.locals = some (.integer ⟨type, size⟩))
    (measured : rank = 1 ∧ buffer.rank = 0 ∨
      buffer.rank = rank ∧ ∃ length, buffer.shape[known.1]? = some length) :
    Follows (Prepared routine buffers)
      (if buffer.passes rank known.1 size then .ok (index + 1)
        else .error (.refused (routine.refusal (index + 1) (.wrongDimension (known.1 + 1)))))
      ((Code.ofList (ctx.extentCode routine index rank known)).run world callees state) := by
  have cast : (Expr.cast "int" (ctx.boundExpr routine known.2)).value world state.locals =
      some (.integer (CType.wrap .int size)) := by
    rw [Expr.value, valued]
    rfl
  have assigned : (Code.ofList [.assign (.name "_n") (.cast "int" (ctx.boundExpr routine known.2))]).run
      world callees state = some (.next, state.set "_n" (.integer (CType.wrap .int size))) := by
    rw [Code.run_singleton, run_assign cast prepared.extent, wrap_int, wrap_int, Int.bmod_bmod]
  have next : Prepared routine buffers (index + 1)
      (state.set "_n" (.integer (CType.wrap .int size))) := by
    rw [wrap_int]
    exact prepared.setExtent _
  have counter := state.locals_set_self "_n" (.integer (CType.wrap .int size))
  rw [Context.extentCode, ← List.singleton_append, Code.run_append_of_next assigned]
  exact follows_refusal (truth?_extentCondition memory found counter measured) next

/-- **The extents of an argument**: the first that does not pass is refused. -/
theorem follows_extentTests (memory : world.memory = callMemory buffers slots) {index rank : Nat}
    {buffer : Buffer} {bounds : List (Nat × Bound)} {size : Bound → Int} {type : Bound → CType}
    (found : buffers[index]? = some buffer)
    (valued : ∀ known ∈ bounds, ∀ during, Prepared routine buffers (index + 1) during →
      (ctx.boundExpr routine known.2).value world during.locals =
        some (.integer ⟨type known.2, size known.2⟩))
    (measured : ∀ known ∈ bounds, rank = 1 ∧ buffer.rank = 0 ∨
      buffer.rank = rank ∧ ∃ length, buffer.shape[known.1]? = some length)
    (prepared : Prepared routine buffers (index + 1) state) :
    Follows (Prepared routine buffers)
      (match bounds.find? fun known => !buffer.passes rank known.1 (size known.2) with
        | none => .ok (index + 1)
        | some known =>
          .error (.refused (routine.refusal (index + 1) (.wrongDimension (known.1 + 1)))))
      ((Code.ofList (bounds.flatMap (ctx.extentCode routine index rank))).run world callees
        state) := by
  induction bounds generalizing state with
  | nil => exact ⟨state, rfl, prepared⟩
  | cons known bounds ih =>
      have first : Follows (Prepared routine buffers) _
          ((Code.ofList (ctx.extentCode routine index rank known)).run world callees state) :=
        follows_extentCode memory prepared found (valued known List.mem_cons_self state prepared)
          (measured known List.mem_cons_self)
      rw [List.flatMap_cons, List.find?_cons]
      cases passes : buffer.passes rank known.1 (size known.2) with
      | false =>
          rw [passes] at first
          exact first.append_of_error _
      | true =>
          rw [passes] at first
          exact first.append_of_ok fun after later => ih
            (fun other member => valued other (List.mem_cons_of_mem _ member))
            (fun other member => measured other (List.mem_cons_of_mem _ member)) later

/-! ### Errors that are overlooked -/

/-- **An error that cannot be seen in `int`**: the declared extent that is refused and the length of the
axis differ by a multiple of two to the 32nd. -/
def Routine.Overlooks (routine : Routine) (scalars : String → Option Int) (buffers : List Buffer)
    (error : CallError) : Prop :=
  ∃ index axis argument bound buffer extent length,
    error = routine.refusal (index + 1) (.wrongDimension (axis + 1)) ∧
    routine.arguments[index]? = some argument ∧ argument.bounds[axis]? = some bound ∧
    bound.Declares (routine.valueOf scalars buffers) (some extent) ∧
    buffers[index]? = some buffer ∧ buffer.shape[axis]? = some length ∧
    (0x100000000 : Int) ∣ extent - length

/-- The first bound that is refused does not pass, unless the error is overlooked. -/
theorem find?_passes_eq {argument : Argument} {buffer : Buffer} {lookup : String → Option Int}
    (told : ∀ known, argument.wrongBound? lookup buffer = some known →
      buffer.passes argument.rank known.1 (known.2.size lookup) = false) :
    argument.knownBounds.find?
        (fun known => !buffer.passes argument.rank known.1 (known.2.size lookup)) =
      argument.wrongBound? lookup buffer := by
  unfold Argument.wrongBound? at told ⊢
  generalize argument.knownBounds = bounds at told ⊢
  induction bounds with
  | nil => rfl
  | cons known bounds ih =>
      rw [List.find?_cons] at told
      rw [List.find?_cons, List.find?_cons]
      cases fits : buffer.matches argument.rank known.1 (known.2.size lookup) with
      | true =>
          rw [fits] at told
          rw [passes_of_matches fits]
          exact ih told
      | false =>
          rw [fits] at told
          rw [told known rfl]
          rfl

/-! ### The checks of an argument -/

/-- What the check of a shape means for the call. -/
def Routine.shapeOutcome (routine : Routine) (number : Nat) :
    Except ShapeFault Unit → Except CallFailure Nat
  | .ok () => .ok number
  | .error fault => .error (routine.shapeFailure number fault)

/-- The place of an argument of a call, whose bounds have host forms. -/
structure Placed (ctx : Context) (routine : Routine) (buffers : List Buffer) (index : Nat)
    (argument : Argument) (buffer : Buffer) : Prop where
  declared : routine.arguments[index]? = some argument
  found : buffers[index]? = some buffer
  rendered : ∀ known ∈ argument.knownBounds,
    ∃ extent, ctx.scope.extent routine.binding known.2 = .ok extent

section Argument

variable {index : Nat} {argument : Argument} {buffer : Buffer}

/-- A buffer of an accepted rank has all axes, or is bare. -/
theorem Converted.measured (converted : Converted ctx routine scalars buffers slots)
    (placed : Placed ctx routine buffers index argument buffer)
    (accepted : argument.acceptsRank buffer) {known : Nat × Bound}
    (member : known ∈ argument.knownBounds) :
    argument.rank = 1 ∧ buffer.rank = 0 ∨
      buffer.rank = argument.rank ∧ ∃ length, buffer.shape[known.1]? = some length := by
  rcases acceptsRank_iff.mp accepted with ranked | bare
  · have listed := (Argument.getElem?_bounds_of_known member).1
    have inside : known.1 < argument.rank := (List.getElem?_eq_some_iff.mp listed).1
    have shaped := converted.ranked buffer (List.mem_of_getElem? placed.found)
    have short : known.1 < buffer.shape.length := by omega
    exact .inr ⟨ranked, _, List.getElem?_eq_getElem short⟩
  · exact .inl bare

/-- A wrong bound that is not overlooked does not pass. -/
theorem Placed.told (placed : Placed ctx routine buffers index argument buffer)
    {known : Nat × Bound}
    (declare : ∀ known ∈ argument.knownBounds, known.2.Declares (routine.valueOf scalars buffers)
      (some (known.2.size (routine.valueOf scalars buffers))))
    (wrong : argument.wrongBound? (routine.valueOf scalars buffers) buffer = some known)
    (seen : ¬routine.Overlooks scalars buffers
      (routine.refusal (index + 1) (.wrongDimension (known.1 + 1)))) :
    buffer.passes argument.rank known.1 (known.2.size (routine.valueOf scalars buffers)) = false := by
  have member := List.mem_of_find?_eq_some wrong
  have differs := List.find?_some wrong
  rw [Bool.not_eq_true'] at differs
  refine (Bool.not_eq_true _).mp fun passes => seen ?_
  obtain ⟨length, isLength, divides⟩ := exists_length_of_passes passes differs
  exact ⟨index, known.1, argument, known.2, buffer, _, length, rfl, placed.declared,
    (Argument.getElem?_bounds_of_known member).1, declare known member, placed.found, isLength, divides⟩

/-- The extents are tested unless the array has no elements. -/
theorem follows_guardedCode (shapes : routine.HasWordShapes)
    (converted : Converted ctx routine scalars buffers slots)
    (memory : world.memory = callMemory buffers slots)
    (placed : Placed ctx routine buffers index argument buffer)
    (accepted : argument.acceptsRank buffer)
    (declare : ∀ known ∈ argument.knownBounds, known.2.Declares (routine.valueOf scalars buffers)
      (some (known.2.size (routine.valueOf scalars buffers))))
    (fit : ProductsFit (argument.sizes (routine.valueOf scalars buffers)))
    (seen : (argument.sizes (routine.valueOf scalars buffers)).prod ≠ 0 → ∀ known,
      argument.wrongBound? (routine.valueOf scalars buffers) buffer = some known →
        ¬routine.Overlooks scalars buffers
          (routine.refusal (index + 1) (.wrongDimension (known.1 + 1))))
    (prepared : Prepared routine buffers (index + 1) state) :
    Follows (Prepared routine buffers)
      (routine.shapeOutcome (index + 1)
        (if (argument.sizes (routine.valueOf scalars buffers)).prod = 0 then .ok ()
          else
            match argument.wrongBound? (routine.valueOf scalars buffers) buffer with
            | none => .ok ()
            | some known => .error (.call (.wrongDimension (known.1 + 1)))))
      ((Code.ofList (ctx.guardedCode routine index argument)).run world callees state) := by
  have taken : argument ∈ routine.arguments := List.mem_of_getElem? placed.declared
  have valued : ∀ known ∈ argument.knownBounds, ∀ during,
      Prepared routine buffers (index + 1) during →
      (ctx.boundExpr routine known.2).value world during.locals =
        some (.integer ⟨known.2.ctype, known.2.size (routine.valueOf scalars buffers)⟩) := by
    intro known member during prepared
    obtain ⟨extent, rendered⟩ := placed.rendered known member
    exact value_boundExpr shapes converted memory prepared taken member rendered
      (declare known member)
  have guard := truth?_guardExpr (shapes.words argument taken) (shapes.narrow argument taken) declare
    fit fun known member => valued known member state prepared
  unfold Context.guardedCode
  cases empty : argument.knownBounds.isEmpty with
  | true =>
      unfold Argument.sizes Argument.wrongBound?
      rw [List.isEmpty_iff.mp empty]
      exact ⟨state, rfl, prepared⟩
  | false =>
      rw [if_neg Bool.false_ne_true, Code.run_singleton, Code.run, guard]
      by_cases none : (argument.sizes (routine.valueOf scalars buffers)).prod = 0
      · rw [none]
        exact ⟨state, rfl, prepared⟩
      · have tests : Follows (Prepared routine buffers) _ ((Code.ofList (argument.knownBounds.flatMap
            (ctx.extentCode routine index argument.rank))).run world callees state) :=
          follows_extentTests memory placed.found valued
            (fun known member => converted.measured placed accepted member) prepared
        rw [find?_passes_eq fun known wrong => placed.told declare wrong (seen none known wrong)]
          at tests
        rw [if_neg none, bne_iff_ne.mpr none]
        cases wrong : argument.wrongBound? (routine.valueOf scalars buffers) buffer with
        | none =>
            rw [wrong] at tests
            exact tests
        | some known =>
            rw [wrong] at tests
            exact tests

/-- **One argument**: the checks follow the model, unless the error is overlooked. -/
theorem follows_checkCode (shapes : routine.HasWordShapes)
    (converted : Converted ctx routine scalars buffers slots)
    (memory : world.memory = callMemory buffers slots)
    (placed : Placed ctx routine buffers index argument buffer)
    (valued : argument.checkShape (routine.valueOf scalars buffers) buffer ≠
      .error (.call .conversion))
    (seen : ∀ fault, argument.checkShape (routine.valueOf scalars buffers) buffer =
      .error (.call fault) → ¬routine.Overlooks scalars buffers (routine.refusal (index + 1) fault))
    (prepared : Prepared routine buffers current state) :
    Follows (Prepared routine buffers)
      (routine.shapeOutcome (index + 1)
        (argument.checkShape (routine.valueOf scalars buffers) buffer))
      ((Code.ofList (ctx.checkCode routine index argument)).run world callees state) := by
  have taken : argument ∈ routine.arguments := List.mem_of_getElem? placed.declared
  have inside : index < routine.arguments.length := (List.getElem?_eq_some_iff.mp placed.declared).1
  have few := shapes.count
  have ascii : ∀ bound ∈ argument.bounds, bound.isAssumed = false → bound.IsAscii := by
    intro bound member closed
    obtain ⟨high, low⟩ := shapes.words argument taken bound member closed
    exact ⟨low.all_isAscii, high.all_isAscii⟩
  have readable : argument.checkShape (routine.valueOf scalars buffers) buffer ≠
      .error .unreadable := by
    intro failed
    obtain ⟨cause, isCause⟩ := checkShape_refused ascii failed
    cases isCause
  have numbered : (Code.ofList [.assign (.name "argno") (.number (Nat.toDigits 10 (index + 1)))]).run
      world callees state =
      some (.next, state.set "argno" (.integer ⟨.int, (index + 1 : Nat)⟩)) := by
    have small : index + 1 < 0x8000000000000000 := by omega
    obtain ⟨x, isNumber, -, value⟩ := Expr.value_toDigits small
    rw [Code.run_singleton, run_assign isNumber ⟨_, prepared.number, .inr ⟨_, rfl⟩⟩, value,
      wrap_of_holds rfl ((int_holds_iff _).mpr (by omega))]
  have next := prepared.setNumber (index + 1)
  have rank : Follows (Prepared routine buffers) _ ((Code.ofList [refusalCode (rankCondition index argument.rank)
      (routine.refusal (index + 1) .wrongRank)]).run world callees _) :=
    follows_refusal (truth?_rankCondition memory placed.found (shapes.ranks argument taken)) next
  rw [Context.checkCode, ← List.singleton_append, List.append_assoc, Code.run_append_of_next numbered]
  generalize checked : argument.checkShape (routine.valueOf scalars buffers) buffer = outcome
    at valued seen readable ⊢
  rcases checkShape_cases checked valued readable with ⟨refused, rfl⟩ | ⟨accepted, declare, fit, rfl⟩
  · rw [refused] at rank
    exact rank.append_of_error _
  · rw [accepted] at rank
    refine rank.append_of_ok fun after prepared =>
      follows_guardedCode shapes converted memory placed accepted declare fit
        (fun some known wrong => ?_) prepared
    refine seen _ ?_
    rw [if_neg some, wrong]

end Argument

/-! ### All arguments -/

/-- **All arguments**: the checks follow the model, unless the error is overlooked. -/
theorem follows_checks (shapes : routine.HasWordShapes)
    (converted : Converted ctx routine scalars buffers slots)
    (memory : world.memory = callMemory buffers slots) {pairs : List (Argument × Buffer)}
    (placed : ∀ pair ∈ pairs, pair.1.isChecked →
      Placed ctx routine buffers pair.1.position pair.1 pair.2)
    (valued : ∀ number, routine.checkShapes (routine.valueOf scalars buffers) current pairs ≠
      .error (.refused (routine.refusal number .conversion)))
    (seen : ∀ error, routine.checkShapes (routine.valueOf scalars buffers) current pairs =
      .error (.refused error) → ¬routine.Overlooks scalars buffers error)
    (prepared : Prepared routine buffers current state) :
    Follows (Prepared routine buffers)
      (routine.checkShapes (routine.valueOf scalars buffers) current pairs)
      ((Code.ofList (pairs.flatMap fun pair =>
        if pair.1.isChecked then ctx.checkCode routine pair.1.position pair.1 else [])).run world callees
          state) := by
  induction pairs generalizing current state with
  | nil => exact ⟨state, rfl, prepared⟩
  | cons pair pairs ih =>
      obtain ⟨argument, buffer⟩ := pair
      have laterPlaced := fun other member => placed other (List.mem_cons_of_mem _ member)
      rw [List.flatMap_cons]
      dsimp only
      rw [Routine.checkShapes] at valued seen ⊢
      cases isChecked : argument.isChecked with
      | false =>
          rw [isChecked] at valued seen
          exact ih laterPlaced valued seen prepared
      | true =>
          rw [isChecked, if_pos rfl] at valued seen
          rw [if_pos rfl, if_pos rfl]
          have here := placed (argument, buffer) List.mem_cons_self isChecked
          generalize checked : argument.checkShape (routine.valueOf scalars buffers) buffer = outcome
            at valued seen ⊢
          have first : Follows (Prepared routine buffers) _ ((Code.ofList
              (ctx.checkCode routine argument.position argument)).run world callees state) :=
            follows_checkCode shapes converted memory here
              (fun failed => valued (argument.position + 1) (by rw [← checked, failed]; rfl))
              (fun fault failed => seen _ (by rw [← checked, failed]; rfl)) prepared
          rw [checked] at first
          cases outcome with
          | error fault => exact first.append_of_error _
          | ok _ => exact first.append_of_ok fun after later => ih laterPlaced valued seen later

/-- Nothing is refused if nothing is checked. -/
theorem checkShapes_of_unchecked {pairs : List (Argument × Buffer)} {lookup : String → Option Int}
    (unchecked : ∀ pair ∈ pairs, pair.1.isChecked = false) :
    routine.checkShapes lookup current pairs = .ok current := by
  induction pairs with
  | nil => rfl
  | cons pair pairs ih =>
      rw [List.forall_mem_cons] at unchecked
      rw [Routine.checkShapes, unchecked.1]
      exact ih unchecked.2

/-! ### Local variables -/

/-- The local variable of a sizing argument belongs to no other. -/
theorem eq_of_sizingLocal_eq {first second : Argument} (isFirst : first ∈ routine.sizingArguments)
    (isSecond : second ∈ routine.sizingArguments)
    (same : sizingLocal first.name = sizingLocal second.name) : first = second := by
  obtain ⟨firstName, -, foundFirst⟩ := Routine.exists_boundName isFirst
  obtain ⟨secondName, -, foundSecond⟩ := Routine.exists_boundName isSecond
  have firstSame := sameName_iff.mp (Routine.sameName_of_find? foundFirst)
  have secondSame := sameName_iff.mp (Routine.sameName_of_find? foundSecond)
  have names : lower firstName = lower secondName := by
    rw [← firstSame, ← secondSame]
    have spelled := congrArg String.toList same
    rw [sizingLocal, sizingLocal, String.toList_append, String.toList_append,
      List.append_cancel_right_eq] at spelled
    exact String.toList_inj.mp spelled
  rw [Routine.find?_congr names, foundSecond] at foundFirst
  exact (Option.some.inj foundFirst).symm

theorem run_sizeCode (memory : world.memory = callMemory buffers slots) {argument : Argument}
    {value : Int} (isValue : buffers[argument.position]?.bind Buffer.value = some value) :
    (Context.sizeCode argument).run world callees state =
      some (.next, state.set (sizingLocal argument.name) (.integer (CType.wrap .long value))) := by
  rw [Context.sizeCode, Code.run, value_contentExpr memory isValue]
  rfl

/-- **The local variables of sizing arguments** get the values of their arguments, and no other variable
changes. A variable that is set again belongs to the same argument. -/
theorem run_sizeCodes (converted : Converted ctx routine scalars buffers slots)
    (memory : world.memory = callMemory buffers slots) {arguments : List Argument}
    (sizing : ∀ argument ∈ arguments, argument ∈ routine.sizingArguments) :
    ∃ after, (Code.ofList (arguments.map Context.sizeCode)).run world callees state =
        some (.next, after) ∧
      (∀ name, (∀ argument ∈ arguments, sizingLocal argument.name ≠ name) →
        after.locals name = state.locals name) ∧
      ∀ argument ∈ arguments, ∀ value, buffers[argument.position]?.bind Buffer.value = some value →
        after.locals (sizingLocal argument.name) = some (.integer (CType.wrap .long value)) := by
  induction arguments generalizing state with
  | nil => exact ⟨state, rfl, fun _ _ => rfl, fun _ member => by cases member⟩
  | cons argument arguments ih =>
      rw [List.forall_mem_cons] at sizing
      obtain ⟨value, isValue⟩ := converted.bare argument sizing.1
      obtain ⟨after, ran, others, sizes⟩ := ih sizing.2
      refine ⟨after, ?_, fun name different => ?_, fun other member size isSize => ?_⟩
      · rw [List.map_cons, ← List.singleton_append, Code.run_append_of_next]
        · exact ran
        · rw [Code.run_singleton]
          exact run_sizeCode memory isValue
      · rw [List.forall_mem_cons] at different
        rw [others name different.2, state.locals_set_of_ne _ different.1.symm]
      · by_cases again : ∃ later ∈ arguments, sizingLocal later.name = sizingLocal other.name
        · obtain ⟨later, isLater, same⟩ := again
          obtain rfl : later = other := by
            refine eq_of_sizingLocal_eq (sizing.2 later isLater) ?_ same
            rcases List.mem_cons.mp member with rfl | inside
            · exact sizing.1
            · exact sizing.2 other inside
          exact sizes later isLater size isSize
        · have first : other = argument := by
            rcases List.mem_cons.mp member with same | inside
            · exact same
            · exact absurd ⟨other, inside, rfl⟩ again
          subst first
          rw [others _ fun later isLater same => again ⟨later, isLater, same⟩,
            state.locals_set_self, ← Option.some.inj (isValue.symm.trans isSize)]

/-- The variables that the checks start with. -/
theorem follows_declarations (converted : Converted ctx routine scalars buffers slots)
    (memory : world.memory = callMemory buffers slots)
    (numbered : state.locals "argno" = some (.integer ⟨.int, current⟩)) :
    Follows (Prepared routine buffers) (.ok current)
      ((Code.ofList (.declare "int" "_n" :: routine.sizingArguments.map Context.sizeCode)).run world
        callees state) := by
  obtain ⟨after, ran, others, sizes⟩ := run_sizeCodes converted memory fun _ member => member
  have plain {name : String} (plain : ¬"__".toList <:+ name.toList) :
      after.locals name = (state.set "_n" (.unset "int")).locals name :=
    others name fun argument _ => sizingLocal_ne plain argument.name
  refine ⟨after, ran, ?_, ⟨_, ?_, .inl rfl⟩, sizes⟩
  · rw [plain (by decide)]
    exact numbered
  · rw [plain (by decide)]
    exact state.locals_set_self _ _

/-! ### The block of a wrapper -/

theorem flatMap_filter {α β : Type} (items : List α) (keeps : α → Bool) (parts : α → List β) :
    (items.filter keeps).flatMap parts = items.flatMap fun item =>
      if keeps item then parts item else [] := by
  induction items with
  | nil => rfl
  | cons item items ih =>
      rw [List.flatMap_cons, List.filter_cons, ← ih]
      split
      · rfl
      · rfl

/-- The arguments that are checked, taken from the pairs of arguments and buffers. -/
theorem flatMap_checkedArguments (positioned : routine.Positioned)
    (count : buffers.length = routine.arguments.length) :
    (routine.checkedArguments.flatMap fun (index, argument) => ctx.checkCode routine index argument) =
      (routine.arguments.zip buffers).flatMap fun pair =>
        if pair.1.isChecked then ctx.checkCode routine pair.1.position pair.1 else [] := by
  have firsts : (routine.arguments.zip buffers).map Prod.fst = routine.arguments :=
    List.map_fst_zip count.ge
  rw [Routine.checkedArguments, flatMap_filter, Routine.mapIdx_arguments positioned, List.flatMap_map]
  conv_lhs => rw [← firsts, List.flatMap_map]

/-- The number of the argument that was looked at last. -/
def Numbered (current : Nat) (state : State) : Prop :=
  state.locals "argno" = some (.integer ⟨.int, current⟩)

/-- **The checks of a wrapper follow the model**, unless the error is overlooked. -/
theorem follows_shapeCode (shapes : routine.HasWordShapes)
    (converted : Converted ctx routine scalars buffers slots)
    (memory : world.memory = callMemory buffers slots)
    (rendered : ∀ argument ∈ routine.arguments, argument.isChecked →
      ∀ known ∈ argument.knownBounds, ∃ extent, ctx.scope.extent routine.binding known.2 = .ok extent)
    (valued : ∀ number, routine.validate scalars buffers ≠
      .error (.refused (routine.refusal number .conversion)))
    (seen : ∀ error, routine.validate scalars buffers = .error (.refused error) →
      ¬routine.Overlooks scalars buffers error)
    (numbered : Numbered buffers.length state) :
    Follows Numbered (routine.validate scalars buffers)
      ((Code.ofList (ctx.shapeCode routine)).run world callees state) := by
  unfold Context.shapeCode
  cases unchecked : routine.checkedArguments.isEmpty with
  | true =>
      have accepted : routine.validate scalars buffers = .ok buffers.length := by
        refine checkShapes_of_unchecked fun pair member => ?_
        obtain ⟨index, listed⟩ := Context.mem_iff_numbered.mp (List.of_mem_zip member).1
        have nowhere := List.filter_eq_nil_iff.mp (List.isEmpty_iff.mp unchecked) _ listed
        exact (Bool.not_eq_true _).mp nowhere
      rw [accepted]
      exact ⟨state, rfl, numbered⟩
  | false =>
      rw [if_neg Bool.false_ne_true, Code.run_singleton, Code.run,
        flatMap_checkedArguments shapes.positioned converted.count]
      refine Follows.imp (fun current during (prepared : Prepared routine buffers current during) =>
        prepared.number) ?_
      refine (follows_declarations converted memory numbered).append_of_ok fun after prepared => ?_
      refine follows_checks shapes converted memory (fun pair member isChecked => ?_) valued seen prepared
      obtain ⟨index, found⟩ := List.mem_iff_getElem?.mp member
      obtain ⟨declared, isBuffer⟩ := List.getElem?_zip_eq_some.mp found
      rw [Routine.position_of_getElem? shapes.positioned declared]
      exact ⟨declared, isBuffer, rendered pair.1 (List.mem_of_getElem? declared) isChecked⟩

end Runs

/-- The bounds of checked arguments have host forms if the lines that check them do not fail. -/
theorem Context.exists_extent_of_lines {ctx : Context} {routine : Routine} {lines : List String}
    (spelled : ctx.shapeCheckLines routine = .ofList lines) {argument : Argument}
    (taken : argument ∈ routine.arguments) (isChecked : argument.isChecked) {known : Nat × Bound}
    (member : known ∈ argument.knownBounds) :
    ∃ extent, ctx.scope.extent routine.binding known.2 = .ok extent := by
  cases done : ctx.knownExtents routine argument with
  | error error =>
      have failed := (ctx.error_mem_shapeCheckLines).mpr
        ⟨argument, List.mem_filter.mpr ⟨taken, isChecked⟩, done⟩
      rw [spelled] at failed
      exact absurd failed (Draft.error_mem_ofList lines)
  | ok extents =>
      have listed : (do
          let extent ← ctx.scope.extent routine.binding known.2
          return ⟨known.1, extent⟩) ∈ extents.map Except.ok := by
        rw [← collect_eq_ok_iff.mp done]
        exact List.mem_map_of_mem member
      obtain ⟨whole, -, isWhole⟩ := List.mem_map.mp listed
      obtain ⟨extent, isExtent, -⟩ := bind_eq_ok_iff.mp isWhole.symm
      exact ⟨extent, isExtent⟩

/-- The lines that check shapes stand in the wrapper. -/
theorem Context.shapeCheckLines_infix (ctx : Context) (routine : Routine) :
    ctx.shapeCheckLines routine <:+: (ctx.wrapperItems routine).flatMap Item.lines := by
  have inBody : ctx.shapeCheckLines routine <:+: ctx.wrapperBody routine := ⟨_, _, rfl⟩
  have inBraces : ctx.wrapperBody routine <:+: braced (ctx.wrapperBody routine) :=
    ⟨[.ok "\x7b"], [.ok "\x7d"], rfl⟩
  have inItems : ∃ line, line :: braced (ctx.wrapperBody routine) ∈
      (ctx.wrapperItems routine).map Item.lines :=
    ⟨_, List.mem_cons_of_mem _ List.mem_cons_self⟩
  obtain ⟨line, listed⟩ := inItems
  have inFunction : braced (ctx.wrapperBody routine) <:+: line :: braced (ctx.wrapperBody routine) :=
    (List.suffix_cons _ _).isInfix
  exact inBody.trans (inBraces.trans (inFunction.trans (List.infix_of_mem_flatten listed)))

/-- **The shape checks of a wrapper decide as the model does**, for routines of integers whose bounds are
words. The lines are read as C and run on the buffers of a call for which all bounds have values. If the
model accepts the buffers they go on, and if it refuses them they jump to `err` with the number of the
argument and the message of the same error, unless the error cannot be seen in `int`. -/
theorem Context.shapeChecks_decide {ctx : Context} {routine : Routine} {wrapper : String}
    (tables : ctx.scope.NamesTables) (long : ctx.types.host .integer = "long")
    (shapes : routine.HasWordShapes)
    (done : (layOutItems (ctx.wrapperItems routine)).finish = .ok wrapper) :
    ∃ before checks after code, wrapper = before ++ checks ++ after ∧
      (endLines (ctx.shapeCheckLines routine)).finish = .ok checks ∧ SpellsCode checks code ∧
      ∀ scalars buffers slots world callees state,
        Converted ctx routine scalars buffers slots → world.memory = callMemory buffers slots →
        Numbered buffers.length state →
        (∀ number, routine.validate scalars buffers ≠
          .error (.refused (routine.refusal number .conversion))) →
        (∀ error, routine.validate scalars buffers = .error (.refused error) →
          ¬routine.Overlooks scalars buffers error) →
        Follows Numbered (routine.validate scalars buffers) (code.run world callees state) := by
  obtain ⟨first, last, parts⟩ := (ctx.shapeCheckLines_infix routine).map fun line =>
    line.map (· ++ "\n")
  rw [layOutItems, endLines, ← parts] at done
  obtain ⟨front, after, frontDone, -, rfl⟩ := finish_append_eq_ok done
  obtain ⟨before, checks, -, checksDone, rfl⟩ := finish_append_eq_ok frontDone
  obtain ⟨lines, spelled, chars⟩ := toList_finish_endLines checksDone
  have writes := writesLines_shapeCheckLines tables long shapes.integers shapes.words lines spelled
  rw [← chars] at writes
  refine ⟨before, checks, after, _, rfl, checksDone, writes.spellsCode, ?_⟩
  intro scalars buffers slots world callees state converted memory numbered valued seen
  exact follows_shapeCode shapes converted memory
    (fun argument taken isChecked known member => exists_extent_of_lines spelled taken isChecked member)
    valued seen numbered

/-! ### Two calls -/

/-- A matrix that an argument and a module scalar size. -/
def shift : Routine :=
  [{ name := "n", type := .integer },
    { name := "x", type := .integer, bounds := [⟨"m", "n"⟩, ⟨"1", "3"⟩] }].foldl Routine.arg
    (Routine.subroutine "shift")

/-- The module of the scalar and of the routine. -/
def shiftModule : Context where
  inventory := .ofInterface
    { module := "wxy"
      declarations := [.variable (.scalar "m" .integer "g"), .routine shift] }

/-- The buffers of a call of `shift`. -/
def shiftBuffers (n : Int) (shape : List Nat) : List Buffer :=
  [⟨0, 0, [], some n⟩, ⟨1, shape.length, shape, none⟩]

/-- The slots of the module, where the scalar is two. -/
def shiftSlots (_ : String) (_ : Nat) : Int64 := 2

/-- The scalars of the module, which have the values in their slots. -/
def shiftScalars (name : String) : Option Int :=
  match shiftModule.scope.resolve name with
  | .ok _ => some 2
  | .error _ => none

/-- The world of a call of `shift`. -/
def shiftWorld (buffers : List Buffer) : World where
  compare first second := if first = second then 0 else 1
  compare_eq_zero_iff first second := by
    by_cases same : first = second <;> simp [same]
  memory := callMemory buffers shiftSlots

/-- The state when both arguments of `shift` have been converted. -/
def shiftState : State where
  locals name := if name = "argno" then some (.integer ⟨.int, 2⟩) else none

theorem namesTables_shiftModule : shiftModule.scope.NamesTables :=
  ⟨⟨'w', ['x', 'y'], by decide, by decide, by decide⟩, fun index member => by cases member⟩

theorem hasWordShapes_shift : shift.HasWordShapes := by
  have bounds : ∀ argument ∈ shift.arguments, ∀ bound ∈ argument.bounds,
      bound = ⟨"m", "n"⟩ ∨ bound = ⟨"1", "3"⟩ := by decide
  have known : ∀ argument ∈ shift.arguments, argument.knownBounds = [] ∨
      argument.knownBounds = [(0, ⟨"m", "n"⟩), (1, ⟨"1", "3"⟩)] := by decide
  have long : (⟨"m", "n"⟩ : Bound).ctype = .long := by decide
  refine ⟨Routine.positioned_foldl_arg rfl _, by decide, ?_, ?_, by decide, by decide⟩
  · intro argument taken bound member _
    rcases bounds argument taken bound member with rfl | rfl
    · exact ⟨.name ⟨'n', [], by decide, by decide, by decide⟩,
        .name ⟨'m', [], by decide, by decide, by decide⟩⟩
    · exact ⟨.constant (by decide) (by decide) (by decide),
        .constant (by decide) (by decide) (by decide)⟩
  · intro argument taken
    rcases known argument taken with none | two
    · constructor
      · rw [none]
        intro known member
        cases member
      · rw [none]
        intro count _
        rw [List.take_nil]
        decide
    · constructor
      · rw [two]
        decide
      · rw [two]
        intro count narrow
        cases count with
        | zero => decide
        | succ count =>
            have int := narrow (0, ⟨"m", "n"⟩) List.mem_cons_self
            rw [long] at int
            cases int

theorem converted_shift (n : Int) (shape : List Nat) :
    Converted shiftModule shift shiftScalars (shiftBuffers n shape) shiftSlots := by
  have sizing : ∀ argument ∈ shift.sizingArguments, argument.position = 0 := by decide
  refine ⟨rfl, ?_, fun argument member => ?_, fun name slot resolved => ?_⟩
  · intro buffer member
    rcases List.mem_pair.mp member with rfl | rfl
    · rfl
    · rfl
  · rw [sizing argument member]
    exact ⟨n, rfl⟩
  · rw [shiftScalars, resolved]
    rfl

theorem Context.shapeChecks_decide_shift :
    shift.HasWordShapes ∧
    shift.validate shiftScalars (shiftBuffers 6 [5, 4]) =
      .error (.refused (shift.refusal 2 (.wrongDimension 2))) ∧
    ∃ checks code, (endLines (shiftModule.shapeCheckLines shift)).finish = .ok checks ∧
      SpellsCode checks code ∧
      Reports (code.run (shiftWorld (shiftBuffers 6 [5, 4])) (fun _ _ => none) shiftState)
        (shift.refusal 2 (.wrongDimension 2)) := by
  have emitted : (layOutItems (shiftModule.wrapperItems shift)).finish.toOption.isSome := by
    decide +kernel
  obtain ⟨wrapper, done⟩ := exists_ok_of_isSome emitted
  have refused : shift.validate shiftScalars (shiftBuffers 6 [5, 4]) =
      .error (.refused (shift.refusal 2 (.wrongDimension 2))) := by decide +kernel
  obtain ⟨-, checks, -, code, -, checksDone, spells, follows⟩ :=
    shapeChecks_decide namesTables_shiftModule (by decide) hasWordShapes_shift done
  have followed := follows shiftScalars (shiftBuffers 6 [5, 4]) shiftSlots
    (shiftWorld (shiftBuffers 6 [5, 4])) (fun _ _ => none) shiftState (converted_shift 6 [5, 4]) rfl
    rfl (fun number => ?_) (fun error isError => ?_)
  · rw [refused] at followed
    obtain ⟨error, same, reports⟩ := followed
    obtain rfl := CallFailure.refused.inj same
    exact ⟨hasWordShapes_shift, refused, checks, code, checksDone, spells, reports⟩
  · rw [refused]
    intro same
    cases same
  · rw [refused] at isError
    obtain rfl := CallFailure.refused.inj (Except.error.inj isError)
    rintro ⟨index, axis, argument, bound, buffer, extent, length, same, declared, listed, declares,
      found, measured, divides⟩
    injection same with _ isIndex isFault
    injection isFault with isAxis
    obtain rfl : index = 1 := by omega
    obtain rfl : axis = 1 := by omega
    obtain rfl := Option.some.inj declared
    obtain rfl := Option.some.inj listed
    obtain rfl := Option.some.inj found
    obtain rfl := Option.some.inj measured
    have three : (⟨"1", "3"⟩ : Bound).extent (shift.valueOf shiftScalars (shiftBuffers 6 [5, 4])) =
        .ok (some 3) := by decide +kernel
    have isExtent := extent_eq_ok_iff.mpr declares
    rw [three] at isExtent
    obtain rfl := Option.some.inj (Except.ok.inj isExtent)
    omega

/-- **Lengths are compared in `int`**: the model refuses an extent of two to the 32nd and five for an
axis with five elements, and the checks of the wrapper go on. -/
theorem Context.shapeChecks_overlook_shift :
    Converted shiftModule shift shiftScalars (shiftBuffers 0x100000006 [5, 3]) shiftSlots ∧
    shift.validate shiftScalars (shiftBuffers 0x100000006 [5, 3]) =
      .error (.refused (shift.refusal 2 (.wrongDimension 1))) ∧
    ∃ checks code after, (endLines (shiftModule.shapeCheckLines shift)).finish = .ok checks ∧
      SpellsCode checks code ∧
      code.run (shiftWorld (shiftBuffers 0x100000006 [5, 3])) (fun _ _ => none) shiftState =
        some (.next, after) := by
  have emitted : (endLines (shiftModule.shapeCheckLines shift)).finish.toOption.isSome := by
    decide +kernel
  obtain ⟨checks, done⟩ := exists_ok_of_isSome emitted
  obtain ⟨lines, spelled, chars⟩ := toList_finish_endLines done
  have writes := writesLines_shapeCheckLines namesTables_shiftModule (by decide)
    hasWordShapes_shift.integers hasWordShapes_shift.words lines spelled
  rw [← chars] at writes
  have exit : ((Code.ofList (shiftModule.shapeCode shift)).run
      (shiftWorld (shiftBuffers 0x100000006 [5, 3])) (fun _ _ => none) shiftState).map Prod.fst =
        some .next := by decide +kernel
  obtain ⟨⟨_, after⟩, ran, rfl⟩ := Option.map_eq_some_iff.mp exit
  exact ⟨converted_shift _ _, by decide +kernel, checks, _, after, done, writes.spellsCode, ran⟩

end ForeignGlue
