/-
The interface of a module: what its declarations give the generator to work from.
-/

import ForeignGlue.Interface.Routine
import ForeignGlue.Interface.Variable

namespace ForeignGlue

/-- One declaration of an interface file. -/
inductive Declaration where
  | variable (declared : Variable)
  | routine (declared : Routine)
  deriving DecidableEq, Repr

namespace Declaration

/-- The variable that is declared. -/
def asVariable? : Declaration → Option Variable
  | .variable declared => some declared
  | .routine _ => none

/-- The routine that is declared. -/
def asRoutine? : Declaration → Option Routine
  | .variable _ => none
  | .routine declared => some declared

end Declaration

/-- A record type with its members. -/
structure RecordType where
  name : String
  members : List Variable := []
  deriving DecidableEq, Repr

/-- Everything that is declared for one module. -/
structure Interface where
  /-- The name of the module, which starts every generated symbol. -/
  module : String
  /-- What the host sees, in declaration order. -/
  declarations : List Declaration := []
  /-- Variables of groups that the host does not see. -/
  hidden : List Variable := []
  records : List RecordType := []
  deriving DecidableEq, Repr

namespace Interface

/-- The variables that the host sees, in declaration order. -/
def visibleVariables (interface : Interface) : List Variable :=
  interface.declarations.filterMap Declaration.asVariable?

/-- The routines, in declaration order. -/
def routines (interface : Interface) : List Routine :=
  interface.declarations.filterMap Declaration.asRoutine?

end Interface

end ForeignGlue
