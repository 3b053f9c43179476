/-
Text inside a C string literal.
-/

import ForeignGlue.Text.Basic

namespace ForeignGlue.Source

open ForeignGlue.Text

/-- A hexadecimal digit, in lower case. -/
def hexDigit (n : Nat) : Char :=
  Char.ofNat (if n < 10 then 48 + n else 87 + n)

/-- The spelling of a character in a string literal. Control characters without an escape of their
own are written in two hexadecimal digits. -/
def escapeChar (c : Char) : List Char :=
  if c == '\\' then ['\\', '\\']
  else if c == '"' then ['\\', '"']
  else if c == '\n' then ['\\', 'n']
  else if c == '\t' then ['\\', 't']
  else if c == '\r' then ['\\', 'r']
  else if isControl c then ['\\', 'x', hexDigit (c.toNat / 16), hexDigit (c.toNat % 16)]
  else [c]

/-- The spelling of a text in a string literal. -/
def escape (text : String) : String :=
  String.ofList (text.toList.flatMap escapeChar)

/-- A string literal. -/
def quoted (text : String) : String :=
  "\"" ++ escape text ++ "\""

end ForeignGlue.Source
