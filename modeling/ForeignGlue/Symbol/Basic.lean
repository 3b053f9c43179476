/-
Linker symbols.

Foreign linkers reject names of more than 31 bytes. A longer name is folded: its first characters,
up to 15 bytes, are kept, and sixteen letters drawn from its digest follow. Folding is not
injective, but a name that fits is never changed.
-/

import ForeignGlue.Symbol.Digest
import ForeignGlue.Text.Basic

namespace ForeignGlue.Symbol

open ForeignGlue.Text

/-- The number of bytes a linker accepts. -/
def maxBytes : Nat := 31

/-- The number of bytes that are kept of a longer name, at most. -/
def keptBytes : Nat := 15

/-- The letter for a digest byte: the alphabet is gone through again and again. -/
def letter (byte : UInt8) : Char :=
  Char.ofNat (97 + byte.toNat % 26)

/-- The longest run of whole characters at the start that has at most `room` bytes. -/
def takeBytes : Nat → List Char → List Char
  | _, [] => []
  | room, c :: cs => if c.utf8Size ≤ room then c :: takeBytes (room - c.utf8Size) cs else []

/-- The bytes of a text in UTF-8. -/
def utf8Bytes (text : String) : List UInt8 :=
  text.toList.flatMap String.utf8EncodeChar

/-- The name itself if it fits, and otherwise its folded form. -/
def fold (name : String) : String :=
  if byteSize name.toList ≤ maxBytes then name
  else String.ofList (takeBytes keptBytes name.toList ++ (digest (utf8Bytes name)).map letter)

/-- The symbol of a generated subroutine of a module: what it does, and the variable it is for. -/
def generated (module role variableName : String) : String :=
  fold (module ++ role ++ variableName)

/-- The host name of a wrapper or constructor. It is never folded. -/
def wrapper (module name : String) : String :=
  module ++ "_" ++ name

end ForeignGlue.Symbol
