/-
The types of variables, arguments and results, and how each side of the boundary spells them.
-/

import ForeignGlue.Text.Basic

namespace ForeignGlue

open ForeignGlue.Text

/-- A type of the interface. -/
inductive ValueType where
  | integer
  | real
  | double
  | complex
  | logical
  | character
  /-- A record type, by name. -/
  | record (name : String)
  deriving DecidableEq, Repr, Inhabited

namespace ValueType

/-- The type that a tag of an interface file names. A tag that is no built-in type names a record
type. -/
def ofTag (tag : String) : ValueType :=
  let word := lower (trim tag)
  if word == "integer" then .integer
  else if word == "real" then .real
  else if word == "double" then .double
  else if word == "complex" then .complex
  else if word == "logical" then .logical
  else if word == "string" || word == "character" then .character
  else .record (trim tag)

/-- The tag of a type, as descriptor tables have it. -/
def tag : ValueType → String
  | .integer => "integer"
  | .real => "real"
  | .double => "double"
  | .complex => "complex"
  | .logical => "logical"
  | .character => "character"
  | .record name => name

/-- Whether the type is a record type. -/
def isRecord : ValueType → Bool
  | .record _ => true
  | _ => false

/-- Whether values are passed as strings that carry their length. -/
def isCharacter : ValueType → Bool
  | .character => true
  | _ => false

/-- Whether the type is built in and its values are numbers or truth values. -/
def isNumeric : ValueType → Bool
  | .character => false
  | .record _ => false
  | _ => true

end ValueType

/-- The spellings of every type on both sides of the boundary. -/
structure TypeTable where
  /-- In C declarations. -/
  host : ValueType → String
  /-- The element code of host arrays. -/
  element : ValueType → String
  /-- In foreign declarations. -/
  foreign : ValueType → String
  /-- The format of a result that goes back to the host. -/
  result : ValueType → String

namespace TypeTable

/-- The usual spellings: reals are double precision, and integers have eight bytes. -/
def standard : TypeTable where
  host
    | .integer | .logical => "long"
    | .real | .double => "double"
    | .complex => "Py_complex"
    | .character => "FSTRING"
    | .record _ => "char"
  element
    | .integer | .logical => "NPY_LONG"
    | .real | .double => "NPY_DOUBLE"
    | .complex => "NPY_CDOUBLE"
    | .character => "NPY_STRING"
    | .record _ => "NPY_OBJECT"
  foreign
    | .integer => "integer(kind=8)"
    | .logical => "logical(kind=8)"
    | .real | .double => "real(kind=8)"
    | .complex => "complex(kind=8)"
    | .character => "character"
    | .record name => s!"type({name})"
  result
    | .integer | .logical => "l"
    | .real | .double => "d"
    | .complex => "D"
    | .character => "s"
    | .record _ => "O"

end TypeTable

end ForeignGlue
