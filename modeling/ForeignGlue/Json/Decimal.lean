/-
Decimal numbers and the floating-point numbers they are read as.

A number is a significand times a power of ten. The significand is held in 64 bits: digits that it
has no room for are left out. It is rounded to a floating-point number first and then scaled, so the
result may be one step away from the nearest one.
-/

import ForeignGlue.Json.Basic
import ForeignGlue.Word

namespace ForeignGlue.Json

/-- The number `significand * 10 ^ exponent`, with its sign. -/
structure Decimal where
  negative : Bool
  significand : Nat
  exponent : Int
  deriving DecidableEq, Repr

namespace Decimal

/-- The significand with one more digit, if 64 bits hold it. -/
def appendDigit? (significand : Nat) (digit : Char) : Option Nat :=
  let next := digitsValue [digit] + 10 * significand
  if next < wordCount then some next else none

/-- The significand and the exponent after the digits before the point. From the first digit that
there is no room for, each raises the exponent. -/
def ofWhole (significand : Nat) : List Char → Nat × Nat
  | [] => (significand, 0)
  | digit :: digits =>
    match appendDigit? significand digit with
    | some next => ofWhole next digits
    | none => (significand, digits.length + 1)

/-- The significand after the digits behind the point, and how many of them it took. From the first
digit that there is no room for, none is taken. -/
def ofFraction (significand taken : Nat) : List Char → Nat × Nat
  | [] => (significand, taken)
  | digit :: digits =>
    match appendDigit? significand digit with
    | some next => ofFraction next (taken + 1) digits
    | none => (significand, taken)

/-- The digits of the fraction that `rest` starts with, and what follows them. -/
def splitFraction : List Char → List Char × List Char
  | '.' :: rest => (rest.takeWhile Char.isDigit, rest.dropWhile Char.isDigit)
  | rest => ([], rest)

/-- The exponent that is written out; zero if there is none. -/
def writtenExponent : List Char → Int
  | _ :: '-' :: digits => -(digitsValue digits : Int)
  | _ :: '+' :: digits => digitsValue digits
  | _ :: digits => digitsValue digits
  | [] => 0

/-- The number that a spelling without a sign stands for. -/
def ofUnsigned (negative : Bool) (spelling : List Char) : Decimal :=
  let (whole, raised) := ofWhole 0 (spelling.takeWhile Char.isDigit)
  let (fraction, rest) := splitFraction (spelling.dropWhile Char.isDigit)
  let (significand, taken) := ofFraction whole 0 fraction
  { negative, significand, exponent := raised - taken + writtenExponent rest }

/-- The number that a spelling stands for. -/
def ofLexeme : List Char → Decimal
  | '-' :: spelling => ofUnsigned true spelling
  | spelling => ofUnsigned false spelling

/-- The largest exponent of a power of ten that is a floating-point number. -/
def largestPower : Nat := 308

/-- A power of ten, infinite above the largest. -/
def power (exponent : Nat) : Float :=
  .ofScientific 1 false exponent

/-- The rounded significand, scaled. Below the largest power the division is done in two steps, and
below twice the largest power nothing is left. -/
def scale (size : Float) : Int → Float
  | .ofNat exponent => size * power (min exponent (largestPower + 1))
  | .negSucc less =>
    if less < largestPower then size / power (less + 1)
    else if less < 2 * largestPower then size / power largestPower / power (less + 1 - largestPower)
    else 0.0

/-- The floating-point number of a decimal; `none` if it is too large for one. -/
def toFloat? (decimal : Decimal) : Option Float :=
  let size := decimal.significand.toUInt64.toFloat
  let scaled := if decimal.significand = 0 then 0.0 else scale size decimal.exponent
  if scaled.isInf then none else some (if decimal.negative then -scaled else scaled)

end Decimal

/-- The floating-point number that a value is. -/
def float? : Json → Option Float
  | .number lexeme => (Decimal.ofLexeme lexeme).toFloat?
  | _ => none

end ForeignGlue.Json
