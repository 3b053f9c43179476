/-
Routines and their arguments.
-/

import ForeignGlue.Interface.Bound
import ForeignGlue.Interface.ValueType

namespace ForeignGlue

open ForeignGlue.Text

/-- A positional argument of a routine. -/
structure Argument where
  name : String
  type : ValueType
  bounds : List Bound := []
  /-- The position in the argument list, counted from zero. -/
  position : Nat := 0
  deriving DecidableEq, Repr, Inhabited

namespace Argument

/-- The number of dimensions. -/
def rank (argument : Argument) : Nat :=
  argument.bounds.length

/-- Whether the shape of the argument is checked in a call. -/
def isChecked (argument : Argument) : Bool :=
  !argument.bounds.isEmpty && !argument.type.isRecord && !argument.type.isCharacter

/-- Whether the value of the argument can size another one. -/
def isSizing (argument : Argument) : Bool :=
  argument.type.isNumeric && argument.type != .complex

end Argument

/-- How a routine is linked. -/
inductive Convention where
  /-- Under the foreign compiler's naming, with arrays in foreign axis order. -/
  | foreign
  /-- Under its own name, with contiguous arrays. -/
  | plain
  deriving DecidableEq, Repr, Inhabited

/-- A routine that the host can call. -/
structure Routine where
  name : String
  /-- The type of the result; a subroutine has none. -/
  result : Option ValueType := none
  convention : Convention := .foreign
  arguments : List Argument := []
  /-- The argument list as its documentation shows it. -/
  signature : String := ""
  comment : String := ""
  deriving DecidableEq, Repr, Inhabited

namespace Routine

/-- A subroutine without arguments. -/
def subroutine (name : String) : Routine :=
  { name }

/-- A function without arguments. -/
def function (name : String) (result : ValueType) : Routine :=
  { name, result := some result }

/-- The routine with one more argument, which gets the next position. -/
def arg (routine : Routine) (argument : Argument) : Routine :=
  let arguments := routine.arguments ++ [{ argument with position := routine.arguments.length }]
  { routine with
    arguments
    signature := "(" ++ join "," (arguments.map Argument.name) ++ ")" }

/-- The number of character arguments. -/
def stringCount (routine : Routine) : Nat :=
  (routine.arguments.filter fun argument => argument.type.isCharacter).length

/-- The first argument of a name. -/
def find? (routine : Routine) (name : String) : Option Argument :=
  routine.arguments.find? fun argument => sameName argument.name name

end Routine

end ForeignGlue
