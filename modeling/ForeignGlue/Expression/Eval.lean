/-
Values of bound expressions.

Arithmetic is that of 64-bit signed integers, without wrapping: a result that leaves the range is an
error. Division goes toward zero. The first mistake from the left decides the error, whether it is
one of spelling or of arithmetic.
-/

import ForeignGlue.Expression.Tree
import ForeignGlue.Word

namespace ForeignGlue.Expression

open ForeignGlue.Text

/-- Why an expression has no value. -/
inductive EvalError where
  /-- A character that no expression may hold. Nothing else is looked at then. -/
  | unreadable
  /-- A name without a value. -/
  | unknown (name : String)
  /-- The text is no sum of the grammar, or a number in it is no integer of 64 bits. -/
  | malformed (expression : String)
  | divisionByZero (expression : String)
  /-- A value outside the 64-bit range. -/
  | overflow (expression : String)
  deriving DecidableEq, Repr

/-- What an error says. An unreadable expression is not reported in words. -/
def EvalError.message? : EvalError → Option String
  | .unreadable => none
  | .unknown name => some s!"{name} has no value"
  | .malformed expression => some s!"cannot evaluate '{expression}'"
  | .divisionByZero expression => some s!"division by zero in '{expression}'"
  | .overflow expression => some s!"integer overflow in '{expression}'"

/-- A mistake met while a tree is evaluated. -/
inductive Fault where
  | unknown (name : String)
  | malformed
  | divisionByZero
  | overflow
  deriving DecidableEq, Repr

/-- The error that a fault in `expression` is. -/
def Fault.inExpression (expression : String) : Fault → EvalError
  | .unknown name => .unknown name
  | .malformed => .malformed expression
  | .divisionByZero => .divisionByZero expression
  | .overflow => .overflow expression

/-- The value itself, if it is a 64-bit signed integer. -/
def checked (value : Int) : Except Fault Int :=
  if fitsWord value then .ok value else .error .overflow

/-- The value of a number: a run of ASCII digits, in range. -/
def literalValue (digits : List Char) : Except Fault Int :=
  let value : Nat := digits.foldl (fun value digit => 10 * value + (digit.toNat - 48)) 0
  if digits.all Char.isDigit && fitsWord value then .ok value else .error .malformed

/-- The result of an operator. -/
def Operator.apply (operator : Operator) (left right : Int) : Except Fault Int :=
  match operator with
  | .add => checked (left + right)
  | .sub => checked (left - right)
  | .mul => checked (left * right)
  | .div => if right = 0 then .error .divisionByZero else checked (left.tdiv right)

/-- The value of a tree, evaluated from left to right. -/
def Tree.eval (lookup : String → Option Int) : Tree → Except Fault Int
  | .number digits => literalValue digits
  | .name label =>
    match lookup label with
    | some value => checked value
    | none => .error (.unknown label)
  | .negated operand => do
    let value ← operand.eval lookup
    checked (-value)
  | .binary operator left right => do
    let leftValue ← left.eval lookup
    let rightValue ← right.eval lookup
    operator.apply leftValue rightValue
  | .missing => .error .malformed
  | .unclosed inner => do
    let _ ← inner.eval lookup
    .error .malformed

/-- Whether a lexeme is more than a symbol outside ASCII. -/
def Lexeme.isReadable : Lexeme → Bool
  | .symbol c => isAscii c
  | _ => true

/-- Whether every symbol of an expression is an ASCII character. -/
def isReadable (expression : String) : Bool :=
  (lexemes expression).all Lexeme.isReadable

/-- The value of an expression whose symbols are ASCII characters. -/
def evaluateReadable (expression : String) (lookup : String → Option Int) : Except Fault Int :=
  match readTree expression with
  | (tree, rest) => do
    let value ← tree.eval lookup
    if rest.isEmpty then .ok value else .error .malformed

/-- The value of an expression, its names valued by `lookup`. -/
def evaluate (expression : String) (lookup : String → Option Int) : Except EvalError Int :=
  if isReadable expression then
    (evaluateReadable expression lookup).mapError (Fault.inExpression expression)
  else .error .unreadable

end ForeignGlue.Expression
