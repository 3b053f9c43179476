/-
Tokens of a JSON text.

Strings and numbers are kept as they are spelled; what they stand for is asked later, by those who
need it.
-/

import ForeignGlue.Json.Quoted

namespace ForeignGlue.Json

/-- A token of a JSON text. -/
inductive Token where
  | openBrace
  | closeBrace
  | openBracket
  | closeBracket
  | colon
  | comma
  | null
  | bool (value : Bool)
  | number (lexeme : List Char)
  | string (quoted : List Char)
  deriving DecidableEq, Repr

/-- A blank between tokens. -/
def isSpace (c : Char) : Bool :=
  c == ' ' || c == '\n' || c == '\t' || c == '\r'

/-! ### How far a token reaches -/

/-- Where the closing quote of a string stands: `count` characters lie behind, and the next `skip`
belong to an escape. -/
def closingQuote (count : Nat) : Nat → List Char → Option Nat
  | _, [] => none
  | skip + 1, _ :: cs => closingQuote (count + 1) skip cs
  | 0, c :: cs =>
    if c == '"' then some count
    else
      match unitAt (c :: cs) with
      | none => none
      | some (_, width) => closingQuote (count + 1) (width - 1) cs

/-- The number of digits at the start. -/
def digitCount (cs : List Char) : Nat :=
  (cs.takeWhile Char.isDigit).length

/-- The length of a sign at the start. -/
def signLength : List Char → Nat
  | '-' :: _ => 1
  | _ => 0

/-- The length of the whole part of a number. A zero stands alone. -/
def wholeLength : List Char → Option Nat
  | '0' :: _ => some 1
  | cs => if digitCount cs = 0 then none else some (digitCount cs)

/-- The length of the fraction, zero if there is no point. -/
def fractionLength : List Char → Option Nat
  | '.' :: cs => if digitCount cs = 0 then none else some (digitCount cs + 1)
  | _ => some 0

/-- The length of the sign of an exponent. -/
def exponentSignLength : List Char → Nat
  | '+' :: _ => 1
  | '-' :: _ => 1
  | _ => 0

/-- The length of the exponent, zero if there is none. -/
def exponentLength : List Char → Option Nat
  | [] => some 0
  | c :: cs =>
    if c == 'e' || c == 'E' then
      let sign := exponentSignLength cs
      let digits := digitCount (cs.drop sign)
      if digits = 0 then none else some (1 + sign + digits)
    else some 0

/-- The length of the number at the start. -/
def numberLength (cs : List Char) : Option Nat := do
  let sign := signLength cs
  let whole ← wholeLength (cs.drop sign)
  let fraction ← fractionLength (cs.drop (sign + whole))
  let exponent ← exponentLength (cs.drop (sign + whole + fraction))
  some (sign + whole + fraction + exponent)

/-- The words that are values. -/
def wordAt (cs : List Char) : Option (Token × Nat) :=
  if "null".toList.isPrefixOf cs then some (.null, 4)
  else if "true".toList.isPrefixOf cs then some (.bool true, 4)
  else if "false".toList.isPrefixOf cs then some (.bool false, 5)
  else none

/-- The token at the start, and its length in characters. -/
def tokenAt : List Char → Option (Token × Nat)
  | [] => none
  | c :: cs =>
    if c == '\x7b' then some (.openBrace, 1)
    else if c == '\x7d' then some (.closeBrace, 1)
    else if c == '[' then some (.openBracket, 1)
    else if c == ']' then some (.closeBracket, 1)
    else if c == ':' then some (.colon, 1)
    else if c == ',' then some (.comma, 1)
    else if c == '"' then
      (closingQuote 0 0 cs).map fun length => (.string (cs.take length), length + 2)
    else if c == '-' || c.isDigit then
      (numberLength (c :: cs)).map fun length => (.number ((c :: cs).take length), length)
    else wordAt (c :: cs)

/-- The tokens of the characters after the first `skip`, with `behind` before them, last first. -/
def tokensFrom (behind : List Token) : Nat → List Char → Option (List Token)
  | _, [] => some behind.reverse
  | skip + 1, _ :: cs => tokensFrom behind skip cs
  | 0, c :: cs =>
    if isSpace c then tokensFrom behind 0 cs
    else
      match tokenAt (c :: cs) with
      | none => none
      | some (token, length) => tokensFrom (token :: behind) (length - 1) cs

/-- The tokens of a text; `none` if there is something else in it. -/
def tokens (text : String) : Option (List Token) :=
  tokensFrom [] 0 text.toList

end ForeignGlue.Json
