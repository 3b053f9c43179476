/-
The text between the quotes of a JSON string.

Writing escapes the quote, the backslash and the characters below the blank, and nothing else.
Reading accepts every escape of the format. A `\u` escape gives a UTF-16 code unit, and two
surrogates in a row make one character; a text in which a surrogate stands alone has no value,
though it is well formed.
-/

import ForeignGlue.Source.CString

namespace ForeignGlue.Json

open ForeignGlue.Source (hexDigit)

/-! ### Writing -/

/-- The spelling of a character inside a string. -/
def quoteChar (c : Char) : List Char :=
  if c == '"' then ['\\', '"']
  else if c == '\\' then ['\\', '\\']
  else if c == '\x08' then ['\\', 'b']
  else if c == '\x0c' then ['\\', 'f']
  else if c == '\n' then ['\\', 'n']
  else if c == '\r' then ['\\', 'r']
  else if c == '\t' then ['\\', 't']
  else if c.toNat < 0x20 then
    ['\\', 'u', '0', '0', hexDigit (c.toNat / 16), hexDigit (c.toNat % 16)]
  else [c]

/-- The text between the quotes that stands for `text`. -/
def quote (text : String) : List Char :=
  text.toList.flatMap quoteChar

/-! ### Reading -/

/-- The value of a hexadecimal digit. -/
def hexValue (c : Char) : Option Nat :=
  if c.isDigit then some (c.toNat - 48)
  else if 'a' ≤ c && c ≤ 'f' then some (c.toNat - 87)
  else if 'A' ≤ c && c ≤ 'F' then some (c.toNat - 55)
  else none

/-- The value of four hexadecimal digits. -/
def hexUnit (a b c d : Char) : Option Nat := do
  let a ← hexValue a
  let b ← hexValue b
  let c ← hexValue c
  let d ← hexValue d
  some (((a * 16 + b) * 16 + c) * 16 + d)

/-- The character that a letter after a backslash stands for. -/
def shortEscape (c : Char) : Option Nat :=
  if c == '"' || c == '\\' || c == '/' then some c.toNat
  else if c == 'b' then some 8
  else if c == 'f' then some 12
  else if c == 'n' then some 10
  else if c == 'r' then some 13
  else if c == 't' then some 9
  else none

/-- The first code unit of a text, and how many characters spell it; `none` if no string may hold
what stands there. -/
def unitAt : List Char → Option (Nat × Nat)
  | [] => none
  | c :: cs =>
    if c == '\\' then
      match cs with
      | 'u' :: h :: i :: j :: k :: _ => (hexUnit h i j k).map (·, 6)
      | e :: _ => (shortEscape e).map (·, 2)
      | [] => none
    else if c == '"' || c.toNat < 0x20 then none
    else some (c.toNat, 1)

/-- The code units of the characters after the first `skip`. -/
def unitsFrom : Nat → List Char → Option (List Nat)
  | _, [] => some []
  | skip + 1, _ :: cs => unitsFrom skip cs
  | 0, c :: cs =>
    match unitAt (c :: cs) with
    | none => none
    | some (unit, width) => (unitsFrom (width - 1) cs).map (unit :: ·)

/-- A unit that only the first half of a pair may be. -/
def isHighSurrogate (unit : Nat) : Bool :=
  0xD800 ≤ unit && unit ≤ 0xDBFF

/-- A unit that only the second half of a pair may be. -/
def isLowSurrogate (unit : Nat) : Bool :=
  0xDC00 ≤ unit && unit ≤ 0xDFFF

/-- The characters that code units make up; `none` if a surrogate stands alone. -/
def pairUnits : List Nat → Option (List Char)
  | [] => some []
  | unit :: units =>
    if isHighSurrogate unit then
      match units with
      | [] => none
      | low :: rest =>
        if isLowSurrogate low then
          (pairUnits rest).map
            (Char.ofNat (0x10000 + (unit - 0xD800) * 0x400 + (low - 0xDC00)) :: ·)
        else none
    else if isLowSurrogate unit then none
    else (pairUnits units).map (Char.ofNat unit :: ·)

/-- The text that stands between quotes, if it has a value. -/
def unquote (quoted : List Char) : Option String := do
  let units ← unitsFrom 0 quoted
  let chars ← pairUnits units
  some (String.ofList chars)

end ForeignGlue.Json
