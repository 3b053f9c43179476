/-
**What a wrapper knows of a call when it checks shapes.**

By then every argument has a buffer. The wrapper reads ranks, lengths of axes and bare values from the
buffers, and the values of scalars from their slots (`callMemory`); the values of sizing arguments are in
local variables (`Prepared`).

* `value_wordExpr_of_prepared`, `value_boundExpr`: words and extents have the values that the model
  gives them, as long as what C computes in `int` stays there (`Argument.NarrowPartsFit`).
* `truth?_rankCondition`, `truth?_guardExpr`: the rank is compared and the guard decided as in the
  model.
* `truth?_extentCondition`: an extent and the length of an axis are compared in their last 32 bits.
-/

import ForeignGlue.Proofs.Host.ShapeChecks

namespace ForeignGlue

open ForeignGlue.CExpression
open ForeignGlue.CSource
open ForeignGlue.Expression (IsWord evaluate isLiteral wordType)
open ForeignGlue.Text

/-! ### Memory -/

/-- What a wrapper finds in memory: the buffers of its arguments, and the slots of scalar tables. -/
def callMemory (buffers : List Buffer) (slots : String → Nat → Int64) : Expr → Option Value
  | .call (.name "PyArray_NDIM") (.element (.name "ax") (.number index)) => do
    let buffer ← buffers[Nat.ofDigitChars 10 index 0]?
    return .integer ⟨.int, buffer.rank⟩
  | .element (.call (.name "PyArray_DIMS") (.element (.name "ax") (.number index))) (.number axis) => do
    let buffer ← buffers[Nat.ofDigitChars 10 index 0]?
    let length ← buffer.shape[Nat.ofDigitChars 10 axis 0]?
    return .integer ⟨.long, length⟩
  | .pointed (.pointerCast "long" (.call (.name "PyArray_BYTES")
      (.element (.name "ax") (.number index)))) => do
    let buffer ← buffers[Nat.ofDigitChars 10 index 0]?
    let value ← buffer.value
    return .integer ⟨.long, value⟩
  | .pointed (.pointerCast "long" (.field (.element (.name table) (.number slot)) "data")) =>
    some (.integer ⟨.long, (slots table (Nat.ofDigitChars 10 slot 0)).toInt⟩)
  | _ => none

section Memory

variable {buffers : List Buffer} {slots : String → Nat → Int64} {world : World} {locals : Locals}
  {index : Nat} {buffer : Buffer}

theorem value_rankExpr (memory : world.memory = callMemory buffers slots)
    (found : buffers[index]? = some buffer) :
    (rankExpr index).value world locals = some (.integer ⟨.int, buffer.rank⟩) := by
  show world.memory (rankExpr index) = _
  rw [memory]
  show (buffers[Nat.ofDigitChars 10 (Nat.toDigits 10 index) 0]?.bind _) = _
  rw [Nat.ofDigitChars_ten_toDigits, found]
  rfl

theorem value_lengthExpr (memory : world.memory = callMemory buffers slots)
    (found : buffers[index]? = some buffer) {axis length : Nat}
    (measured : buffer.shape[axis]? = some length) :
    (lengthExpr index axis).value world locals = some (.integer ⟨.long, length⟩) := by
  show world.memory (lengthExpr index axis) = _
  rw [memory]
  show (buffers[Nat.ofDigitChars 10 (Nat.toDigits 10 index) 0]?.bind _) = _
  rw [Nat.ofDigitChars_ten_toDigits, found]
  show (buffer.shape[Nat.ofDigitChars 10 (Nat.toDigits 10 axis) 0]?.bind _) = _
  rw [Nat.ofDigitChars_ten_toDigits, measured]
  rfl

theorem value_contentExpr (memory : world.memory = callMemory buffers slots) {value : Int}
    (found : buffers[index]?.bind Buffer.value = some value) :
    (contentExpr index).value world locals = some (.integer ⟨.long, value⟩) := by
  obtain ⟨buffer, isBuffer, isValue⟩ := Option.bind_eq_some_iff.mp found
  show world.memory (contentExpr index) = _
  rw [memory]
  show (buffers[Nat.ofDigitChars 10 (Nat.toDigits 10 index) 0]?.bind _) = _
  rw [Nat.ofDigitChars_ten_toDigits, isBuffer]
  show (buffer.value.bind _) = _
  rw [isValue]
  rfl

theorem value_slotExpr (memory : world.memory = callMemory buffers slots) (table : String)
    (slot : Nat) :
    (slotExpr table slot).value world locals = some (.integer ⟨.long, (slots table slot).toInt⟩) := by
  show world.memory (slotExpr table slot) = _
  rw [memory]
  show some (Value.integer
    ⟨.long, (slots table (Nat.ofDigitChars 10 (Nat.toDigits 10 slot) 0)).toInt⟩) = _
  rw [Nat.ofDigitChars_ten_toDigits]

end Memory

/-! ### What C computes in `int` -/

/-- The type in which C computes the extent of a bound. -/
def Bound.ctype (bound : Bound) : CType :=
  (wordType bound.high).common (wordType bound.low)

/-- The extent of a bound whose ends are constants. -/
def Bound.constantSize (bound : Bound) : Int :=
  Nat.ofDigitChars 10 bound.high.toList 0 - Nat.ofDigitChars 10 bound.low.toList 0 + 1

/-- **What C computes in `int` stays there**: extents between small constants, and the products of
the first extents as long as all of them are such. -/
structure Argument.NarrowPartsFit (argument : Argument) : Prop where
  extent : ∀ known ∈ argument.knownBounds, known.2.ctype = .int →
    CType.int.holds known.2.constantSize
  product : ∀ count, (∀ known ∈ argument.knownBounds.take count, known.2.ctype = .int) →
    CType.int.holds ((argument.knownBounds.take count).map fun known => known.2.constantSize).prod

theorem isSigned_ctype (bound : Bound) : bound.ctype.isSigned :=
  isSigned_common (Expression.isSigned_wordType bound.high) (Expression.isSigned_wordType bound.low)

/-- A word of type `int` is a constant below two to the 31st. -/
theorem Expression.IsWord.constant_of_int {word : String} (isWord : IsWord word)
    (narrow : wordType word = .int) {lookup : String → Option Int} {value : Int}
    (valued : evaluate word lookup = .ok value) :
    value = Nat.ofDigitChars 10 word.toList 0 ∧ value < 0x80000000 := by
  have evaluated := isWord.eval_of_evaluate valued
  unfold wordType at narrow
  cases literal : isLiteral word with
  | false =>
      rw [literal] at narrow
      cases narrow
  | true =>
      rw [literal, if_pos rfl, decimalType] at narrow
      rw [wordTree, literal] at evaluated
      obtain ⟨-, isNumber, -⟩ := literalValue_eq_ok evaluated
      refine ⟨isNumber, ?_⟩
      rw [isNumber]
      split at narrow
      · assumption
      · cases narrow

section Values

variable {ctx : Context} {routine : Routine} {scalars : String → Option Int} {buffers : List Buffer}
  {slots : String → Nat → Int64} {world : World} {current : Nat} {state : State}

/-! ### The state of a call -/

/-- A routine of integers whose bounds are single words. -/
structure Routine.HasWordShapes (routine : Routine) : Prop where
  positioned : routine.Positioned
  integers : ∀ argument ∈ routine.arguments, argument.type = .integer
  words : ∀ argument ∈ routine.arguments, argument.HasWordBounds
  narrow : ∀ argument ∈ routine.arguments, argument.NarrowPartsFit
  /-- Arguments and dimensions are counted in `int`. -/
  count : routine.arguments.length < 0x80000000
  ranks : ∀ argument ∈ routine.arguments, argument.rank < 0x80000000

/-- The buffers of a call: every argument has one, those that size others are bare, and the scalars have
the values in their slots. -/
structure Converted (ctx : Context) (routine : Routine) (scalars : String → Option Int)
    (buffers : List Buffer) (slots : String → Nat → Int64) : Prop where
  count : buffers.length = routine.arguments.length
  ranked : ∀ buffer ∈ buffers, buffer.rank = buffer.shape.length
  bare : ∀ argument ∈ routine.sizingArguments,
    ∃ value, buffers[argument.position]?.bind Buffer.value = some value
  scalar : ∀ name slot, ctx.scope.resolve name = .ok slot →
    scalars name = some (slots (ctx.scope.reference slot).1 (ctx.scope.reference slot).2).toInt

/-- A variable of type `int`, set or not. -/
def HoldsInt (held : Value) : Prop :=
  held = .unset "int" ∨ ∃ value, held = .integer ⟨.int, value⟩

/-- **The local variables while shapes are checked**, the number of the argument that was looked at last
being given. -/
structure Prepared (routine : Routine) (buffers : List Buffer) (current : Nat) (state : State) :
    Prop where
  number : state.locals "argno" = some (.integer ⟨.int, current⟩)
  extent : ∃ held, state.locals "_n" = some held ∧ HoldsInt held
  sizes : ∀ argument ∈ routine.sizingArguments, ∀ value,
    buffers[argument.position]?.bind Buffer.value = some value →
      state.locals (sizingLocal argument.name) = some (.integer (CType.wrap .long value))

/-- The local variable of a sizing argument is named like no other. -/
theorem sizingLocal_ne {other : String} (plain : ¬"__".toList <:+ other.toList) (name : String) :
    sizingLocal name ≠ other := by
  rintro rfl
  refine plain ?_
  rw [sizingLocal, String.toList_append]
  exact List.suffix_append _ _

/-- Another argument may be looked at. -/
theorem Prepared.setNumber (prepared : Prepared routine buffers current state) (next : Nat) :
    Prepared routine buffers next (state.set "argno" (.integer ⟨.int, next⟩)) := by
  refine ⟨state.locals_set_self _ _, prepared.extent, fun argument member size isSize => ?_⟩
  rw [state.locals_set_of_ne _ (sizingLocal_ne (by decide) argument.name)]
  exact prepared.sizes argument member size isSize

/-- Another extent may be looked at. -/
theorem Prepared.setExtent (prepared : Prepared routine buffers current state) (value : Int) :
    Prepared routine buffers current (state.set "_n" (.integer ⟨.int, value⟩)) := by
  refine ⟨prepared.number, ⟨_, state.locals_set_self _ _, .inr ⟨value, rfl⟩⟩,
    fun argument member size isSize => ?_⟩
  rw [state.locals_set_of_ne _ (sizingLocal_ne (by decide) argument.name)]
  exact prepared.sizes argument member size isSize

/-! ### Values of words and extents -/

theorem isChecked_of_integer {argument : Argument} (integer : argument.type = .integer) :
    argument.isChecked = !argument.bounds.isEmpty := by
  rw [Argument.isChecked, integer]
  exact (Bool.and_true _).trans (Bool.and_true _)

theorem isSizing_of_integer {argument : Argument} (integer : argument.type = .integer) :
    argument.isSizing = true := by
  rw [Argument.isSizing, integer]
  rfl

/-- **A word has the value that the model gives it**: that of a sizing argument is in its local
variable, that of a scalar in its slot. -/
theorem value_wordExpr_of_prepared (shapes : routine.HasWordShapes)
    (converted : Converted ctx routine scalars buffers slots)
    (memory : world.memory = callMemory buffers slots)
    (prepared : Prepared routine buffers current state) {word : String} {value : Int} (isWord : IsWord word)
    (used : isLiteral word = false → word ∈ routine.boundNames)
    (resolves : isLiteral word = false → routine.binding word = none →
      ∃ slot, ctx.scope.resolve word = .ok slot)
    (valued : evaluate word (routine.valueOf scalars buffers) = .ok value) :
    (ctx.scope.wordExpr routine.binding word).value world state.locals =
      some (.integer ⟨wordType word, value⟩) := by
  refine Scope.value_wordExpr isWord valued fun mentions found fits => ?_
  have listed := used mentions
  rw [Scope.wordExpr, mentions, if_neg Bool.false_ne_true]
  cases bound : routine.binding word with
  | some label =>
      have sizes : routine.Sizes word := by
        by_contra free
        rw [(Routine.binding_eq_none_iff shapes.positioned listed).mpr free] at bound
        cases bound
      obtain ⟨argument, isArgument, sizing⟩ := sizes
      have member := (Routine.mem_sizingArguments shapes.positioned).mpr
        ⟨⟨word, listed, isArgument⟩, sizing⟩
      obtain ⟨size, isSize⟩ := converted.bare argument member
      have label_eq : label = sizingLocal argument.name := by
        rw [Routine.binding, Option.ite_none_right_eq_some] at bound
        rw [← Option.some.inj bound.2, sizingLocal, sizingLocal,
          sameName_iff.mp (Routine.sameName_of_find? isArgument)]
      have same : size = value := by
        rw [Routine.valueOf, isArgument, Option.bind_some, isSize] at found
        exact Option.some.inj found
      show state.locals label = _
      rw [label_eq, prepared.sizes argument member size isSize, same,
        wrap_of_holds rfl ((long_holds_iff value).mpr fits)]
  | none =>
      obtain ⟨slot, resolved⟩ := resolves mentions bound
      have absent : routine.find? word = none := by
        have free := (Routine.binding_eq_none_iff shapes.positioned listed).mp bound
        cases isArgument : routine.find? word with
        | none => rfl
        | some argument =>
            have integer := shapes.integers argument (List.mem_of_find?_eq_some isArgument)
            exact absurd ⟨argument, isArgument, isSizing_of_integer integer⟩ free
      rw [Routine.valueOf, absent, Option.bind_none, Option.none_or,
        converted.scalar word slot resolved] at found
      have place : ctx.scope.place word = ctx.scope.reference slot := by
        rw [Scope.place, resolved]
      dsimp only
      rw [place, value_slotExpr memory, Option.some.inj found]

/-- **An extent has the value that the model gives it.** -/
theorem value_boundExpr (shapes : routine.HasWordShapes)
    (converted : Converted ctx routine scalars buffers slots)
    (memory : world.memory = callMemory buffers slots)
    (prepared : Prepared routine buffers current state) {argument : Argument} {known : Nat × Bound}
    {extent : Extent} {size : Int} (taken : argument ∈ routine.arguments)
    (member : known ∈ argument.knownBounds)
    (rendered : ctx.scope.extent routine.binding known.2 = .ok extent)
    (declares : known.2.Declares (routine.valueOf scalars buffers) (some size)) :
    (ctx.boundExpr routine known.2).value world state.locals =
      some (.integer ⟨known.2.ctype, size⟩) := by
  have words := (shapes.words argument taken).known member
  obtain ⟨-, high, low, isHigh, isLow, spanFits, fits, rfl⟩ := declares
  obtain ⟨renderedHigh, renderedLow⟩ := Scope.extent_eq_ok_iff.mp rendered
  have listed := (Argument.getElem?_bounds_of_known member).1
  have checked : argument.isChecked = true := by
    rw [isChecked_of_integer (shapes.integers argument taken)]
    simpa using List.ne_nil_of_mem (List.mem_of_getElem? listed)
  have value {word : String} {number : Int} {pieces : List Piece} (isWord : IsWord word)
      (mentioned : ∀ name ∈ Expression.names word, known.2.Mentions name)
      (done : ctx.scope.pieces routine.binding word = .ok pieces)
      (valued : evaluate word (routine.valueOf scalars buffers) = .ok number) :
      (ctx.scope.wordExpr routine.binding word).value world state.locals =
        some (.integer ⟨wordType word, number⟩) := by
    have named (mentions : isLiteral word = false) : word ∈ Expression.names word := by
      simp [Expression.names, isWord.tokens_eq, mentions, Expression.Token.text]
    refine value_wordExpr_of_prepared shapes converted memory prepared isWord
      (fun mentions => Routine.mem_boundNames taken checked (List.mem_of_getElem? listed)
        (mentioned word (named mentions))) (fun mentions unbound => ?_) valued
    refine (ctx.scope.demands_pieces routine.binding word).resolved ?_ word ⟨named mentions, unbound⟩
    rw [done]
    intro error failed
    cases failed
  have first := value words.1 (fun name inside => .inr inside) renderedHigh isHigh
  have second := value words.2 (fun name inside => .inl inside) renderedLow isLow
  have holds : known.2.ctype.holds (high - low) ∧ known.2.ctype.holds (high - low + 1) := by
    cases type : known.2.ctype with
    | int =>
        have narrow := (shapes.narrow argument taken).extent known member type
        obtain ⟨narrowHigh, narrowLow⟩ := int_of_common type
        obtain ⟨rfl, smallHigh⟩ := words.1.constant_of_int narrowHigh isHigh
        obtain ⟨rfl, smallLow⟩ := words.2.constant_of_int narrowLow isLow
        exact ⟨(int_holds_iff _).mpr (by omega), narrow⟩
    | long => exact ⟨(long_holds_iff _).mpr spanFits, (long_holds_iff _).mpr fits⟩
    | unsigned => exact absurd (isSigned_ctype known.2) (by rw [type]; decide)
    | unsignedLong => exact absurd (isSigned_ctype known.2) (by rw [type]; decide)
  exact value_extentExpr first second (Expression.isSigned_wordType _) (Expression.isSigned_wordType _)
    rfl (isSigned_ctype known.2) holds.1 holds.2

theorem size_eq_constantSize {bound : Bound} {lookup : String → Option Int} {size : Int}
    (words : IsWord bound.high ∧ IsWord bound.low) (narrow : bound.ctype = .int)
    (declares : bound.Declares lookup (some size)) : size = bound.constantSize := by
  obtain ⟨-, high, low, isHigh, isLow, -, -, rfl⟩ := declares
  obtain ⟨narrowHigh, narrowLow⟩ := int_of_common narrow
  rw [(words.1.constant_of_int narrowHigh isHigh).1, (words.2.constant_of_int narrowLow isLow).1]
  rfl

/-! ### The guard -/

/-- **A product of signed integers**: C computes it from the left, in `int` up to the first factor that
is wider. -/
theorem value_product {locals : Locals} {factors : List Expr} {values : List CValue}
    (each : List.Forall₂ (fun factor value => factor.value world locals = some (.integer value) ∧
      value.type.isSigned) factors values) {start : Expr} {x : CValue}
    (isStart : start.value world locals = some (.integer x)) (signed : x.type.isSigned)
    (narrow : x.type = .int → ∀ count, (∀ value ∈ values.take count, value.type = .int) →
      CType.int.holds (x.value * ((values.take count).map CValue.value).prod))
    (words : ∀ count, fitsWord (x.value * ((values.take count).map CValue.value).prod)) :
    ∃ type : CType, type.isSigned ∧
      (factors.foldl (.binary (.arithmetic .mul)) start).value world locals =
        some (.integer ⟨type, x.value * (values.map CValue.value).prod⟩) := by
  induction each generalizing start x with
  | nil => exact ⟨x.type, signed, by simpa using isStart⟩
  | @cons factor value factors values first _ ih =>
      obtain ⟨isFactor, signedToo⟩ := first
      have common := isSigned_common signed signedToo
      have holds : (x.type.common value.type).holds (x.value * value.value) := by
        cases type : x.type.common value.type with
        | int =>
            obtain ⟨isInt, isIntToo⟩ := int_of_common type
            simpa using narrow isInt 1 (by simpa using isIntToo)
        | long => exact (long_holds_iff _).mpr (by simpa using words 1)
        | unsigned => exact absurd common (by rw [type]; decide)
        | unsignedLong => exact absurd common (by rw [type]; decide)
      have product : (Expr.binary (.arithmetic .mul) start factor).value world locals =
          some (.integer ⟨x.type.common value.type, x.value * value.value⟩) := by
        rw [Expr.value_arithmetic .mul isStart isFactor signed signedToo]
        show ((x.type.common value.type).result (x.value * value.value)).map _ = _
        rw [result_of_holds common holds]
        rfl
      have step := ih product common
        (fun narrowed count small => by
          obtain ⟨isInt, isIntToo⟩ := int_of_common narrowed
          have more := narrow isInt (count + 1) (by simpa [isIntToo] using small)
          rwa [List.take_succ_cons, List.map_cons, List.prod_cons, ← Int.mul_assoc] at more)
        (fun count => by
          have more := words (count + 1)
          rwa [List.take_succ_cons, List.map_cons, List.prod_cons, ← Int.mul_assoc] at more)
      rw [List.map_cons, List.prod_cons, ← Int.mul_assoc]
      exact step

/-- **The guard holds** unless the product of the known extents is zero. -/
theorem truth?_guardExpr {locals : Locals} {argument : Argument} {lookup : String → Option Int}
    (words : argument.HasWordBounds) (narrow : argument.NarrowPartsFit)
    (declare : ∀ known ∈ argument.knownBounds, known.2.Declares lookup (some (known.2.size lookup)))
    (fit : ProductsFit (argument.sizes lookup))
    (valued : ∀ known ∈ argument.knownBounds, (ctx.boundExpr routine known.2).value world locals =
      some (.integer ⟨known.2.ctype, known.2.size lookup⟩)) :
    (guardExpr (argument.knownBounds.map fun known => ctx.boundExpr routine known.2)).truth? world
      locals = some ((argument.sizes lookup).prod != 0) := by
  have each : List.Forall₂ (fun factor value => factor.value world locals = some (.integer value) ∧
      value.type.isSigned) (argument.knownBounds.map fun known => ctx.boundExpr routine known.2)
      (argument.knownBounds.map fun known => ⟨known.2.ctype, known.2.size lookup⟩) := by
    rw [List.forall₂_map_left_iff, List.forall₂_map_right_iff, List.forall₂_same]
    exact fun known member => ⟨valued known member, isSigned_ctype known.2⟩
  have one : (Expr.number ['1']).value world locals = some (.integer ⟨.int, 1⟩) := rfl
  have zero : (Expr.number ['0']).value world locals = some (.integer ⟨.int, 0⟩) := rfl
  have sizes (bounds : List (Nat × Bound)) :
      (bounds.map fun known => (⟨known.2.ctype, known.2.size lookup⟩ : CValue)).map CValue.value =
        bounds.map fun known => known.2.size lookup := by
    rw [List.map_map]
    rfl
  have ints : CType.int = .int → ∀ count, (∀ value ∈ (argument.knownBounds.map fun known =>
      (⟨known.2.ctype, known.2.size lookup⟩ : CValue)).take count, value.type = .int) →
      CType.int.holds (1 * (((argument.knownBounds.map fun known =>
        (⟨known.2.ctype, known.2.size lookup⟩ : CValue)).take count).map CValue.value).prod) := by
    intro _ count small
    rw [← List.map_take] at small ⊢
    have small : ∀ known ∈ argument.knownBounds.take count, known.2.ctype = .int := fun known member =>
      small _ (List.mem_map_of_mem member)
    have constants : ((argument.knownBounds.take count).map fun known => known.2.size lookup) =
        (argument.knownBounds.take count).map fun known => known.2.constantSize := by
      refine List.map_congr_left fun known member => ?_
      have listed := List.mem_of_mem_take member
      exact size_eq_constantSize (words.known listed) (small known member) (declare known listed)
    rw [Int.one_mul, sizes, constants]
    exact narrow.product count small
  have products : ∀ count, fitsWord (1 * (((argument.knownBounds.map fun known =>
      (⟨known.2.ctype, known.2.size lookup⟩ : CValue)).take count).map CValue.value).prod) := by
    intro count
    rw [Int.one_mul, ← List.map_take, sizes, List.map_take]
    exact fit count
  obtain ⟨type, signed, product⟩ := value_product each one rfl ints products
  rw [guardExpr, Expr.truth?_unequal product zero signed rfl]
  dsimp only
  rw [Int.one_mul, sizes]
  rfl

end Values

/-! ### Ranks and lengths -/

theorem wrap_int (value : Int) : CType.wrap .int value = ⟨.int, value.bmod 0x100000000⟩ := by
  have size : CType.int.size.toNat = 0x100000000 := by decide
  rw [CType.wrap, size]

/-- Whether a buffer passes for a declared extent at an axis: a bare value does for one dimension, and
else the extent and the length are compared in their last 32 bits. -/
def Buffer.passes (buffer : Buffer) (rank axis : Nat) (extent : Int) : Bool :=
  (rank == 1 && buffer.rank == 0) || buffer.shape[axis]?.any fun length : Nat =>
    extent.bmod 0x100000000 == (length : Int).bmod 0x100000000

/-- A buffer that has the declared extent passes for it. -/
theorem passes_of_matches {buffer : Buffer} {rank axis : Nat} {extent : Int}
    (fits : buffer.matches rank axis extent) : buffer.passes rank axis extent := by
  rw [Buffer.passes, Bool.or_eq_true]
  rcases matches_iff.mp fits with ⟨one, bare⟩ | ⟨positive, measured⟩
  · exact .inl (by simp [one, bare])
  · refine .inr ?_
    rw [measured, Option.any_some, Int.toNat_of_nonneg positive]
    exact beq_self_eq_true _

theorem bmod_eq_bmod_iff {first second : Int} :
    first.bmod 0x100000000 = second.bmod 0x100000000 ↔ (0x100000000 : Int) ∣ first - second := by
  simp only [Int.bmod]
  split <;> split <;> omega

/-- A buffer that passes for an extent it does not have: the length of the axis differs from the extent
by a multiple of two to the 32nd. -/
theorem exists_length_of_passes {buffer : Buffer} {rank axis : Nat} {extent : Int}
    (passes : buffer.passes rank axis extent) (differs : buffer.matches rank axis extent = false) :
    ∃ length : Nat, buffer.shape[axis]? = some length ∧ (0x100000000 : Int) ∣ extent - length := by
  rw [Buffer.matches, Bool.or_eq_false_iff] at differs
  rw [Buffer.passes, differs.1, Bool.false_or, Option.any_eq_true] at passes
  obtain ⟨length, isLength, same⟩ := passes
  exact ⟨length, isLength, bmod_eq_bmod_iff.mp (beq_iff_eq.mp same)⟩

section Conditions

variable {buffers : List Buffer} {slots : String → Nat → Int64} {world : World} {locals : Locals}
  {index rank : Nat} {buffer : Buffer}

theorem truth?_hasRank (memory : world.memory = callMemory buffers slots)
    (found : buffers[index]? = some buffer) (small : rank < 0x8000000000000000) :
    (hasRank index rank).truth? world locals = some (buffer.rank == rank) := by
  obtain ⟨x, isNumber, signed, value⟩ := Expr.value_toDigits small
  rw [hasRank, Expr.truth?_equal (value_rankExpr memory found) isNumber rfl signed, value]
  congr 1
  rw [Bool.eq_iff_iff, beq_iff_eq, beq_iff_eq]
  exact Int.natCast_inj

/-- **The rank condition holds** for the buffers that the model accepts. -/
theorem truth?_rankCondition (memory : world.memory = callMemory buffers slots)
    (found : buffers[index]? = some buffer) {argument : Argument} (small : argument.rank < 0x80000000) :
    (rankCondition index argument.rank).truth? world locals =
      some (argument.acceptsRank buffer) := by
  have has (other : Nat) (bounded : other < 0x80000000) :
      (hasRank index other).truth? world locals = some (buffer.rank == other) :=
    truth?_hasRank memory found (by omega)
  unfold rankCondition
  rw [Argument.acceptsRank]
  split
  · next one =>
      rw [Expr.truth?_or (has 1 (by decide)) (has 0 (by decide)), one]
      rfl
  · next several =>
      rw [has argument.rank small, beq_false_of_ne several, Bool.false_and, Bool.or_false]

/-- **The condition on an extent holds** for the buffers that pass for it. -/
theorem truth?_extentCondition (memory : world.memory = callMemory buffers slots)
    (found : buffers[index]? = some buffer) {axis : Nat} {extent : Int}
    (counter : locals "_n" = some (.integer (CType.wrap .int extent)))
    (measured : rank = 1 ∧ buffer.rank = 0 ∨
      buffer.rank = rank ∧ ∃ length, buffer.shape[axis]? = some length) :
    (extentCondition index rank axis).truth? world locals =
      some (buffer.passes rank axis extent) := by
  have bareTest : (hasRank index 0).truth? world locals = some (buffer.rank == 0) :=
    truth?_hasRank memory found (by decide)
  unfold extentCondition
  rw [Buffer.passes]
  rcases measured with ⟨rfl, bare⟩ | ⟨ranked, length, isLength⟩
  · rw [bare] at bareTest ⊢
    exact Expr.truth?_or_of_left bareTest
  · have cast : (Expr.cast "int" (lengthExpr index axis)).value world locals =
        some (.integer (CType.wrap .int length)) := by
      rw [Expr.value, value_lengthExpr memory found isLength]
      rfl
    have held : (Expr.name "_n").value world locals =
        some (.integer (CType.wrap .int extent)) := counter
    have lengths : (hasExtent index axis).truth? world locals =
        some (extent.bmod 0x100000000 == (length : Int).bmod 0x100000000) := by
      rw [hasExtent, Expr.truth?_equal held cast rfl rfl, wrap_int, wrap_int]
    rw [isLength, Option.any_some]
    split
    · next one =>
        rw [Expr.truth?_or bareTest lengths, one]
        rfl
    · next several =>
        rw [lengths, beq_false_of_ne several, Bool.false_and, Bool.false_or]

end Conditions

end ForeignGlue
