/-
**What functions of C do.**

Expressions have typed values, as in C with an `int` of 32 and a `long` of 64 bits; where C defines no
value there is none. Statements change local variables, store into tables and jump. What is stored into a
table is kept as the expression that is stored, together with the place it is stored at.

* `Expr.value`: the value of an expression, what stands in memory being given.
* `Code.run`: what statements do, and whether they end in a jump.
* `call`: the stores that a call of a function makes. A function may call those that are defined
  before it.
-/

import ForeignGlue.Proofs.CSource.Syntax

namespace ForeignGlue.CSource

open ForeignGlue.CExpression

/-! ### Values -/

/-- What a variable may hold. -/
inductive Value where
  | integer (value : CValue)
  /-- A string, without the NUL that ends it. -/
  | text (chars : List Char)
  /-- An object that is passed on and not looked into. -/
  | object
  /-- What was printed from a format, as the format is spelled. -/
  | printed (spelled : List Char)
  /-- A variable that has no value yet. -/
  | unset (type : String)
  deriving DecidableEq, Repr

/-- The values of local variables. -/
abbrev Locals := String → Option Value

/-- What is outside the functions. -/
structure World where
  /-- The result of comparing two strings. -/
  compare : List Char → List Char → Int
  /-- Equal strings are told by a zero. -/
  compare_eq_zero_iff : ∀ first second, compare first second = 0 ↔ first = second
  /-- The values of elements, members and targets of pointers, and of calls of the library. -/
  memory : Expr → Option Value

/-- The truth of a value. -/
def Value.truth? : Value → Option Bool
  | .integer value => some (value.value != 0)
  | _ => none

/-- The integer that a value is. -/
def Value.integer? : Value → Option CValue
  | .integer value => some value
  | _ => none

/-- The string that a value is. -/
def Value.text? : Value → Option (List Char)
  | .text chars => some chars
  | _ => none

/-- The value of a condition. -/
def ofTruth (truth : Bool) : Value :=
  .integer ⟨.int, if truth then 1 else 0⟩

/-- The integer type of a name. -/
def integerType? : String → Option CType
  | "int" => some .int
  | "long" | "npy_intp" => some .long
  | _ => none

/-- An integer in a signed type: what does not fit is taken modulo the size of the type. -/
def CType.wrap (type : CType) (value : Int) : CValue :=
  ⟨type, value.bmod type.size.toNat⟩

/-- An integer that fits its type stays as it is. -/
theorem wrap_of_holds {type : CType} {value : Int} (signed : type.isSigned)
    (holds : type.holds value) : CType.wrap type value = ⟨type, value⟩ := by
  have even : ∃ half : Nat, 0 < half ∧ type.size = 2 * half := by
    cases type with
    | int => exact ⟨0x80000000, by decide, rfl⟩
    | long => exact ⟨0x8000000000000000, by decide, rfl⟩
    | unsigned => cases signed
    | unsignedLong => cases signed
  obtain ⟨half, positive, size⟩ := even
  rw [CType.holds, if_pos signed, size, Bool.and_eq_true, decide_eq_true_eq, decide_eq_true_eq] at holds
  unfold CType.wrap
  rw [size, Int.bmod_eq_of_le]
  · omega
  · omega

/-- An integer as one of a type that is named. -/
def castInteger (type : String) (value : CValue) : Option Value :=
  (integerType? type).map fun target => .integer (CType.wrap target value.value)

/-- Two integers, compared in their common type. -/
def compareIntegers (test : Int → Int → Bool) (left right : CValue) : Value :=
  let type := left.type.common right.type
  ofTruth (test (type.convert left.value) (type.convert right.value))

/-- An arithmetic operator on two integers, in their common type. -/
def applyInteger (operator : Expression.Operator) (left right : CValue) : Option Value :=
  let type := left.type.common right.type
  (type.apply operator (type.convert left.value) (type.convert right.value)).map .integer

/-! ### Expressions -/

/-- The value of an argument, which is a variable or a literal without escapes. -/
def Expr.argument? (locals : Locals) : Expr → Option Value
  | .name label => locals label
  | .text spelled => if spelled.contains '\\' then none else some (.text spelled)
  | _ => none

/-- The value of a call inside an expression. -/
def callValue (world : World) (locals : Locals) (callee arguments : Expr) : Option Value :=
  match callee, arguments with
  | .name "strcmp", .arguments first second => do
    let firstText ← (first.argument? locals).bind Value.text?
    let secondText ← (second.argument? locals).bind Value.text?
    return .integer ⟨.int, world.compare firstText secondText⟩
  | _, _ => world.memory (.call callee arguments)

/-- **The value of an expression**, `none` where C defines none. -/
def Expr.value (world : World) (locals : Locals) : Expr → Option Value
  | .number digits => (literal? digits).map .integer
  | .text spelled => (Expr.text spelled).argument? locals
  | .name label => locals label
  | .element array index => world.memory (.element array index)
  | .field base label => world.memory (.field base label)
  | .pointed pointer => world.memory (.pointed pointer)
  | .call callee passed => callValue world locals callee passed
  | .arguments _ _ | .pointerCast _ _ => none
  | .negation operand => do
    let truth ← (operand.value world locals).bind Value.truth?
    return ofTruth !truth
  | .negated operand => do
    let inner ← (operand.value world locals).bind Value.integer?
    (inner.type.result (-inner.value)).map .integer
  | .cast type operand => do
    let inner ← (operand.value world locals).bind Value.integer?
    castInteger type inner
  | .binary .or left right => do
    let first ← (left.value world locals).bind Value.truth?
    if first then return ofTruth true
    let second ← (right.value world locals).bind Value.truth?
    return ofTruth second
  | .binary .and left right => do
    let first ← (left.value world locals).bind Value.truth?
    if !first then return ofTruth false
    let second ← (right.value world locals).bind Value.truth?
    return ofTruth second
  | .binary .equal left right => do
    let first ← (left.value world locals).bind Value.integer?
    let second ← (right.value world locals).bind Value.integer?
    return compareIntegers (· == ·) first second
  | .binary .unequal left right => do
    let first ← (left.value world locals).bind Value.integer?
    let second ← (right.value world locals).bind Value.integer?
    return compareIntegers (· != ·) first second
  | .binary .lessEqual left right => do
    let first ← (left.value world locals).bind Value.integer?
    let second ← (right.value world locals).bind Value.integer?
    return compareIntegers (fun x y => decide (x ≤ y)) first second
  | .binary (.arithmetic operator) left right => do
    let first ← (left.value world locals).bind Value.integer?
    let second ← (right.value world locals).bind Value.integer?
    applyInteger operator first second

/-- The truth of a condition. -/
def Expr.truth? (world : World) (locals : Locals) (condition : Expr) : Option Bool :=
  (condition.value world locals).bind Value.truth?

section Truth

variable {world : World} {locals : Locals} {left right : Expr} {x y : CValue}

theorem Value.truth?_ofTruth (truth : Bool) : (ofTruth truth).truth? = some truth := by
  cases truth <;> rfl

theorem Expr.value_negation : (Expr.negation left).value world locals = (do
    let truth ← (left.value world locals).bind Value.truth?
    return ofTruth !truth) :=
  rfl

/-- The right side counts only if the left one is false. -/
theorem Expr.value_or : (Expr.binary .or left right).value world locals = (do
    let first ← (left.value world locals).bind Value.truth?
    if first then return ofTruth true
    let second ← (right.value world locals).bind Value.truth?
    return ofTruth second) :=
  rfl

/-- The right side counts only if the left one is true. -/
theorem Expr.value_and : (Expr.binary .and left right).value world locals = (do
    let first ← (left.value world locals).bind Value.truth?
    if !first then return ofTruth false
    let second ← (right.value world locals).bind Value.truth?
    return ofTruth second) :=
  rfl

theorem Expr.value_equal : (Expr.binary .equal left right).value world locals = (do
    let first ← (left.value world locals).bind Value.integer?
    let second ← (right.value world locals).bind Value.integer?
    return compareIntegers (· == ·) first second) :=
  rfl

theorem Expr.value_unequal : (Expr.binary .unequal left right).value world locals = (do
    let first ← (left.value world locals).bind Value.integer?
    let second ← (right.value world locals).bind Value.integer?
    return compareIntegers (· != ·) first second) :=
  rfl

theorem Expr.value_lessEqual : (Expr.binary .lessEqual left right).value world locals = (do
    let first ← (left.value world locals).bind Value.integer?
    let second ← (right.value world locals).bind Value.integer?
    return compareIntegers (fun x y => decide (x ≤ y)) first second) :=
  rfl

theorem Expr.truth?_or {first second : Bool} (isFirst : left.truth? world locals = some first)
    (isSecond : right.truth? world locals = some second) :
    (Expr.binary .or left right).truth? world locals = some (first || second) := by
  unfold Expr.truth? at isFirst isSecond ⊢
  rw [Expr.value_or, isFirst, isSecond]
  cases first <;> exact Value.truth?_ofTruth _

/-- What holds on the left of an `or` need not be looked at on the right. -/
theorem Expr.truth?_or_of_left (holds : left.truth? world locals = some true) :
    (Expr.binary .or left right).truth? world locals = some true := by
  unfold Expr.truth? at holds ⊢
  rw [Expr.value_or, holds]
  rfl

theorem Expr.truth?_negation {truth : Bool} (known : left.truth? world locals = some truth) :
    (Expr.negation left).truth? world locals = some !truth := by
  unfold Expr.truth? at known ⊢
  rw [Expr.value_negation, known]
  exact Value.truth?_ofTruth _

theorem Expr.truth?_and {first second : Bool} (isFirst : left.truth? world locals = some first)
    (isSecond : right.truth? world locals = some second) :
    (Expr.binary .and left right).truth? world locals = some (first && second) := by
  unfold Expr.truth? at isFirst isSecond ⊢
  rw [Expr.value_and, isFirst, isSecond]
  cases first <;> exact Value.truth?_ofTruth _

/-- Signed types have a signed type in common. -/
theorem isSigned_common {first second : CType} (signed : first.isSigned)
    (signedToo : second.isSigned) : (first.common second).isSigned := by
  unfold CType.common
  split
  · exact signedToo
  · exact signed

/-- The common type is the wider one, so it is the narrowest only if both are. -/
theorem int_of_common {first second : CType} (narrow : first.common second = .int) :
    first = .int ∧ second = .int := by
  unfold CType.common at narrow
  split at narrow
  · next order =>
      rw [narrow] at order
      refine ⟨?_, narrow⟩
      cases first with
      | int => rfl
      | _ => cases order
  · next order =>
      rw [narrow] at order
      exact absurd (Nat.zero_le _) order

/-- Signed integers stay as they are in their common type. -/
theorem convert_common (signed : x.type.isSigned) (signedToo : y.type.isSigned) (value : Int) :
    (x.type.common y.type).convert value = value :=
  if_pos (isSigned_common signed signedToo)

/-- **Signed numbers are compared as they are**, whatever their types. -/
theorem truth?_compareIntegers (test : Int → Int → Bool) (signed : x.type.isSigned)
    (signedToo : y.type.isSigned) :
    (compareIntegers test x y).truth? = some (test x.value y.value) := by
  unfold compareIntegers
  dsimp only
  rw [convert_common signed signedToo, convert_common signed signedToo]
  exact Value.truth?_ofTruth _

theorem Expr.truth?_equal (isFirst : left.value world locals = some (.integer x))
    (isSecond : right.value world locals = some (.integer y)) (signed : x.type.isSigned)
    (signedToo : y.type.isSigned) :
    (Expr.binary .equal left right).truth? world locals = some (x.value == y.value) := by
  unfold Expr.truth?
  rw [Expr.value_equal, isFirst, isSecond]
  exact truth?_compareIntegers (· == ·) signed signedToo

theorem Expr.truth?_unequal (isFirst : left.value world locals = some (.integer x))
    (isSecond : right.value world locals = some (.integer y)) (signed : x.type.isSigned)
    (signedToo : y.type.isSigned) :
    (Expr.binary .unequal left right).truth? world locals = some (x.value != y.value) := by
  unfold Expr.truth?
  rw [Expr.value_unequal, isFirst, isSecond]
  exact truth?_compareIntegers (· != ·) signed signedToo

theorem Expr.truth?_lessEqual (isFirst : left.value world locals = some (.integer x))
    (isSecond : right.value world locals = some (.integer y)) (signed : x.type.isSigned)
    (signedToo : y.type.isSigned) :
    (Expr.binary .lessEqual left right).truth? world locals = some (decide (x.value ≤ y.value)) := by
  unfold Expr.truth?
  rw [Expr.value_lessEqual, isFirst, isSecond]
  exact truth?_compareIntegers (fun x y => decide (x ≤ y)) signed signedToo

/-- A number below two to the 63rd. -/
theorem Expr.value_toDigits {number : Nat} (small : number < 0x8000000000000000) :
    ∃ x : CValue, (Expr.number (Nat.toDigits 10 number)).value world locals = some (.integer x) ∧
      x.type.isSigned ∧ x.value = number := by
  refine ⟨⟨decimalType number, number⟩, ?_, ?_, rfl⟩
  · show (literal? (Nat.toDigits 10 number)).map _ = _
    rw [literal?_toDigits small]
    rfl
  · dsimp only
    unfold decimalType
    split <;> rfl

end Truth

/-! ### Statements -/

/-- Stores an expression at a place. -/
structure Store where
  target : Expr
  value : Expr
  deriving DecidableEq, Repr

/-- The local variables, and the stores that were made. -/
structure State where
  locals : Locals
  stores : List Store := []

/-- The state with a variable set. -/
def State.set (state : State) (name : String) (value : Value) : State :=
  { state with locals := fun other => if other = name then some value else state.locals other }

theorem State.locals_set_self (state : State) (name : String) (value : Value) :
    (state.set name value).locals name = some value := by
  unfold State.set
  exact if_pos rfl

/-- All other variables are as they were. -/
theorem State.locals_set_of_ne (state : State) {name other : String} (value : Value)
    (different : other ≠ name) : (state.set name value).locals other = state.locals other := by
  unfold State.set
  exact if_neg different

/-- How statements end. -/
inductive Exit where
  | next
  | jump (label : String)
  deriving DecidableEq, Repr

/-- What a value becomes in a variable that holds another one. -/
def assigned? (held new : Value) : Option Value :=
  match held, new with
  | .integer old, .integer value => some (.integer (CType.wrap old.type value.value))
  | .unset type, .integer value => castInteger type value
  | _, _ => none

/-- The values of the arguments of a call. -/
def Expr.arguments? (locals : Locals) : Expr → Option (List Value)
  | .arguments first rest => do
    let value ← first.argument? locals
    let values ← rest.arguments? locals
    return value :: values
  | single => (single.argument? locals).map ([·])

/-- What the functions are that can be called: each gives the stores it makes. -/
abbrev Callees := String → List Value → Option (List Store)

/-- What a call does that stands alone. -/
def performCall (callees : Callees) (callee arguments : Expr) (state : State) : Option State :=
  match callee, arguments with
  | .name "sprintf", .arguments (.name buffer) (.text spelled) =>
    some (state.set buffer (.printed spelled))
  | .name label, arguments => do
    let values ← arguments.arguments? state.locals
    let stores ← callees label values
    return { state with stores := state.stores ++ stores }
  | _, _ => none

/-- **What statements do.** The variables of a block stay, which nothing after it can tell. -/
def Code.run (world : World) (callees : Callees) : Code → State → Option (Exit × State)
  | .nothing, state => some (.next, state)
  | .followed first rest, state =>
    match first.run world callees state with
    | some (.next, after) => rest.run world callees after
    | other => other
  | .block body, state => body.run world callees state
  | .conditional condition body, state =>
    match condition.truth? world state.locals with
    | some true => body.run world callees state
    | some false => some (.next, state)
    | none => none
  | .jump label, state => some (.jump label, state)
  | .declare type name, state => some (.next, state.set name (.unset type))
  | .define type name value, state => do
    let given ← (value.value world state.locals).bind Value.integer?
    let held ← castInteger type given
    return (.next, state.set name held)
  | .assign (.name name) value, state => do
    let given ← value.value world state.locals
    let held ← state.locals name
    let new ← assigned? held given
    return (.next, state.set name new)
  | .assign target value, state =>
    some (.next, { state with stores := state.stores ++ [⟨target, value⟩] })
  | .perform (.call callee arguments), state =>
    (performCall callees callee arguments state).map (.next, ·)
  | .perform _, _ => none

/-! ### Functions -/

/-- The local variables of a function when it is called. -/
def Function.bind (function : Function) (values : List Value) : Locals := fun name =>
  (function.parameters.zip values).lookup name

/-- The stores of a call, the functions being given from the last to the first. -/
def callAmong (world : World) : List Function → Callees
  | [], _, _ => none
  | function :: earlier, name, values =>
    if function.name = name then
      if function.parameters.length = values.length then
        match function.body.run world (callAmong world earlier) ⟨function.bind values, []⟩ with
        | some (.next, after) => some after.stores
        | _ => none
      else none
    else callAmong world earlier name values

/-- **The stores that a call of a function makes.** -/
def call (world : World) (unit : List Function) : Callees :=
  callAmong world unit.reverse

end ForeignGlue.CSource
