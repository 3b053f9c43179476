/-
**Integer arithmetic of C.**

The host side of a bound is a C expression of integer constants and table slots. Its value depends on
the type of every operand: a constant has the first type of a list that holds it, an operator works
in the common type of its operands, a signed operation that leaves its type has no defined result,
and an unsigned one wraps around.

* `literal?`: an integer constant, which is octal if it starts with a zero.
* `CExpr.value`: the value of an expression, `none` where C defines none.
* `literal?_of_literalValue`: a constant is read as the decimal number it spells, unless it has
  a leading zero and is at least eight.

`int` has 32 bits, and `long`, the type of a slot, has 64.
-/

import ForeignGlue.Expression.Eval
import ForeignGlue.Proofs.Text.CharClass

namespace ForeignGlue.CExpression

open ForeignGlue.Expression (Operator literalValue)
open ForeignGlue.Text

/-! ### Types -/

/-- The integer types of constants and slots. -/
inductive CType where
  | int
  | unsigned
  | long
  | unsignedLong
  deriving DecidableEq, Repr

namespace CType

/-- The order of the usual arithmetic conversions. -/
def rank : CType → Nat
  | .int => 0
  | .unsigned => 1
  | .long => 2
  | .unsignedLong => 3

/-- Whether the type has negative values. -/
def isSigned : CType → Bool
  | .int | .long => true
  | .unsigned | .unsignedLong => false

/-- The number of values of a type. -/
def size : CType → Int
  | .int | .unsigned => 0x100000000
  | .long | .unsignedLong => 0x10000000000000000

/-- Whether a value can be represented. -/
def holds (type : CType) (value : Int) : Bool :=
  if type.isSigned then -type.size ≤ 2 * value && 2 * value < type.size
  else 0 ≤ value && value < type.size

/-- The type in which an operator works on operands of two types. -/
def common (left right : CType) : CType :=
  if left.rank ≤ right.rank then right else left

/-- A value of a lower type as one of this type. -/
def convert (type : CType) (value : Int) : Int :=
  if type.isSigned then value else value % type.size

end CType

theorem int_holds_iff (value : Int) :
    CType.int.holds value ↔ -0x80000000 ≤ value ∧ value < 0x80000000 := by
  simp only [CType.holds, CType.isSigned, if_true, Bool.and_eq_true, decide_eq_true_eq]
  simp only [CType.size]
  omega

theorem long_holds_iff (value : Int) : CType.long.holds value ↔ fitsWord value := by
  simp only [CType.holds, CType.isSigned, if_true, fitsWord, Bool.and_eq_true, decide_eq_true_eq]
  simp only [CType.size]
  omega

/-! ### Values -/

/-- A value with its type. -/
structure CValue where
  type : CType
  value : Int
  deriving DecidableEq, Repr

/-- The result of an operation in a type. -/
def CType.result (type : CType) (value : Int) : Option CValue :=
  if type.isSigned then if type.holds value then some ⟨type, value⟩ else none
  else some ⟨type, value % type.size⟩

/-- An octal digit. -/
def isOctalDigit (c : Char) : Bool :=
  48 ≤ c.toNat && c.toNat < 56

/-- A constant of the first type that holds it. -/
def firstHolding (types : List CType) (value : Int) : Option CValue :=
  (types.find? fun type => type.holds value).map fun type => ⟨type, value⟩

/-- An integer constant without a suffix. One that starts with a zero is octal. -/
def literal? (digits : List Char) : Option CValue :=
  if digits.isEmpty then none
  else if digits.head? = some '0' then
    if digits.all isOctalDigit then
      firstHolding [.int, .unsigned, .long, .unsignedLong] (Nat.ofDigitChars 8 digits 0)
    else none
  else if digits.all Char.isDigit then firstHolding [.int, .long] (Nat.ofDigitChars 10 digits 0)
  else none

/-- The result of an operator on operands of one type. Division goes toward zero. -/
def CType.apply (type : CType) (operator : Operator) (left right : Int) : Option CValue :=
  match operator with
  | .add => type.result (left + right)
  | .sub => type.result (left - right)
  | .mul => type.result (left * right)
  | .div => if right = 0 then none else type.result (left.tdiv right)

/-- An integer expression of C over constants and the slots of tables. -/
inductive CExpr where
  | literal (digits : List Char)
  /-- The `long` that a slot of a table points to. -/
  | slot (table : String) (index : Nat)
  | negated (operand : CExpr)
  | binary (operator : Operator) (left right : CExpr)
  deriving DecidableEq, Repr

/-- The value of an expression, the slots of every table being given. -/
def CExpr.value (slots : String → Nat → Int64) : CExpr → Option CValue
  | .literal digits => literal? digits
  | .slot table index => some ⟨.long, (slots table index).toInt⟩
  | .negated operand => do
    let inner ← operand.value slots
    inner.type.result (-inner.value)
  | .binary operator left right => do
    let leftValue ← left.value slots
    let rightValue ← right.value slots
    let type := leftValue.type.common rightValue.type
    type.apply operator (type.convert leftValue.value) (type.convert rightValue.value)

/-- The constants of an expression, in order. -/
def CExpr.literals : CExpr → List (List Char)
  | .literal digits => [digits]
  | .slot _ _ => []
  | .negated operand => operand.literals
  | .binary _ left right => left.literals ++ right.literals

/-! ### Decimal and octal constants -/

/-- A constant that C reads as the decimal number it spells: it has no leading zero, or is less than
eight. -/
def isPlainLiteral (digits : List Char) : Bool :=
  digits.head? != some '0' || Nat.ofDigitChars 10 digits 0 < 8

/-- A decimal number is at least what its first digits spell. -/
theorem le_ofDigitChars (digits : List Char) (start : Nat) :
    start ≤ Nat.ofDigitChars 10 digits start := by
  rw [Nat.ofDigitChars_eq_ofDigitChars_zero]
  have positive : 0 < 10 ^ digits.length := Nat.pow_pos (by decide)
  have scaled : 1 * start ≤ 10 ^ digits.length * start := Nat.mul_le_mul_right start positive
  omega

/-- Digits that spell less than eight mean the same in both bases: all but the last are zeros. -/
theorem octal_of_decimal_lt {digits : List Char} {start : Nat} (decimal : digits.all Char.isDigit)
    (small : Nat.ofDigitChars 10 digits start < 8) :
    digits.all isOctalDigit ∧ Nat.ofDigitChars 8 digits start = Nat.ofDigitChars 10 digits start := by
  induction digits generalizing start with
  | nil => simp
  | cons digit digits ih =>
      simp only [List.all_cons, Bool.and_eq_true, isDigit_iff] at decimal
      simp only [Nat.ofDigitChars_cons] at small ⊢
      have bound := le_ofDigitChars digits (10 * start + (digit.toNat - '0'.toNat))
      have digitZero : '0'.toNat = 48 := rfl
      have zero : start = 0 := by omega
      have octal : isOctalDigit digit := by
        simp only [isOctalDigit, Bool.and_eq_true, decide_eq_true_eq]
        omega
      obtain ⟨allOctal, same⟩ := ih decimal.2 small
      refine ⟨by simp [octal, allOctal], ?_⟩
      subst zero
      exact same

theorem literalValue_eq_ok {digits : List Char} {value : Int}
    (valued : literalValue digits = .ok value) :
    digits.all Char.isDigit ∧ value = Nat.ofDigitChars 10 digits 0 ∧
      Nat.ofDigitChars 10 digits 0 < 0x8000000000000000 := by
  have spelled : digits.foldl (fun value digit => 10 * value + (digit.toNat - 48)) 0 =
      Nat.ofDigitChars 10 digits 0 := rfl
  simp only [literalValue, spelled, Bool.and_eq_true] at valued
  split at valued
  · next fits =>
      refine ⟨fits.1, (Except.ok.inj valued).symm, ?_⟩
      have range := fits.2
      simp only [fitsWord, Bool.and_eq_true, decide_eq_true_eq] at range
      omega
  · cases valued

theorem all_isDigit_toDigits (value : Nat) : (Nat.toDigits 10 value).all Char.isDigit := by
  rw [List.all_eq_true]
  intro digit member
  exact Nat.isDigit_of_mem_toDigits (by decide) (by decide) member

/-- The decimal spelling of a number starts with a zero only if the number is zero. -/
theorem isPlainLiteral_toDigits (value : Nat) : isPlainLiteral (Nat.toDigits 10 value) := by
  have noZero : 0 < value → (Nat.toDigits 10 value).head? ≠ some '0' := by
    induction value using Nat.base_induction 10 (by decide) with
    | single digit small =>
        intro positive
        have known : ∀ digit < 10, 0 < digit → digit.digitChar ≠ '0' := by decide
        simpa [Nat.toDigits_of_lt_base small] using known digit small positive
    | digit value digit small positive ih =>
        intro _
        obtain ⟨first, more, spelled⟩ : ∃ first more, Nat.toDigits 10 value = first :: more :=
          List.exists_cons_of_ne_nil Nat.toDigits_ne_nil
        rw [spelled] at ih
        rw [← Nat.toDigits_append_toDigits (by decide) positive small, spelled]
        simpa using ih positive
  rcases Nat.eq_zero_or_pos value with rfl | positive
  · decide
  · simp [isPlainLiteral, noZero positive]

/-- The type of a decimal constant below two to the 63rd. -/
def decimalType (value : Int) : CType :=
  if value < 0x80000000 then .int else .long

/-- A list of types that starts with `int` and has `long` after it types a constant by its size. -/
theorem firstHolding_decimal {types : List CType} {value : Nat} (small : value < 0x8000000000000000)
    (order : types = [.int, .long] ∨
      value < 0x80000000 ∧ types = [.int, .unsigned, .long, .unsignedLong]) :
    firstHolding types value = some ⟨decimalType value, value⟩ := by
  by_cases fits : value < 0x80000000
  · have holds : CType.int.holds value := (int_holds_iff _).mpr (by omega)
    have type : decimalType value = .int := if_pos (by omega)
    rcases order with rfl | ⟨-, rfl⟩ <;> simp [firstHolding, holds, type]
  · have tooLarge : ¬ CType.int.holds value := fun holds => by
      have := (int_holds_iff _).mp holds
      omega
    have holds : CType.long.holds value := (long_holds_iff _).mpr (by simp [fitsWord]; omega)
    have type : decimalType value = .long := if_neg (by omega)
    rcases order with rfl | ⟨below, rfl⟩
    · simp [firstHolding, tooLarge, holds, type]
    · exact absurd below fits

/-- **Plain constants keep their value.** -/
theorem literal?_of_literalValue {digits : List Char} {value : Int} (written : digits ≠ [])
    (plain : isPlainLiteral digits) (valued : literalValue digits = .ok value) :
    literal? digits = some ⟨decimalType value, value⟩ := by
  obtain ⟨decimal, rfl, small⟩ := literalValue_eq_ok valued
  have nonempty : digits.isEmpty = false := by simpa using written
  simp only [isPlainLiteral, Bool.or_eq_true, bne_iff_ne, decide_eq_true_eq] at plain
  unfold literal?
  rw [nonempty]
  by_cases zero : digits.head? = some '0'
  · have below : Nat.ofDigitChars 10 digits 0 < 8 := plain.resolve_left fun other => other zero
    obtain ⟨octal, spelled⟩ := octal_of_decimal_lt decimal below
    simp only [Bool.false_eq_true, if_false, zero, if_true, octal, spelled]
    exact firstHolding_decimal small (.inr ⟨by omega, rfl⟩)
  · simp only [Bool.false_eq_true, if_false, zero, decimal, if_true]
    exact firstHolding_decimal small (.inl rfl)

/-- The decimal spelling of a number is a constant with that value. -/
theorem literal?_toDigits {value : Nat} (small : value < 0x8000000000000000) :
    literal? (Nat.toDigits 10 value) = some ⟨decimalType value, value⟩ := by
  refine literal?_of_literalValue Nat.toDigits_ne_nil (isPlainLiteral_toDigits value) ?_
  have spelled : (Nat.toDigits 10 value).foldl
      (fun value digit => 10 * value + (digit.toNat - 48)) 0 = value :=
    Nat.ofDigitChars_ten_toDigits
  have fits : fitsWord value := by
    simp only [fitsWord, Bool.and_eq_true, decide_eq_true_eq]
    omega
  simp [literalValue, spelled, fits]
  simpa using all_isDigit_toDigits value

end ForeignGlue.CExpression
