/-
Why a call is refused. Wrappers raise one host exception for all of these; only its words differ.
-/

namespace ForeignGlue

/-- What is wrong with a call. -/
inductive CallFault where
  | argumentCount (expected given : Nat)
  /-- The argument is not of its declared type. -/
  | wrongType
  /-- The argument cannot be made into a buffer, or its declared bounds have no value. -/
  | conversion
  /-- The argument has not the declared number of dimensions. -/
  | wrongRank
  /-- An extent, counted from one, is not the declared one. -/
  | wrongDimension (dimension : Nat)
  /-- The routine failed inside the foreign code. -/
  | foreignFault
  deriving DecidableEq, Repr

/-- A refused call: the routine, and the argument that is at fault, counted from one. -/
structure CallError where
  routine : String
  /-- Zero if no argument is at fault. -/
  argument : Nat
  fault : CallFault
  deriving DecidableEq, Repr

/-- What an error says. -/
def CallError.message (error : CallError) : String :=
  match error.fault with
  | .argumentCount expected given =>
    s!"{error.routine}() takes exactly {expected} arguments ({given} given)"
  | .wrongType => s!"Argument {error.argument} in {error.routine} has the wrong type"
  | .foreignFault => s!"Argument {error.argument} in {error.routine} has the wrong type"
  | .conversion => s!"There is an error in argument {error.argument} in {error.routine}"
  | .wrongRank =>
    s!"Argument {error.argument} in {error.routine} has the wrong number of dimensions"
  | .wrongDimension dimension =>
    s!"Dimension {dimension} of argument {error.argument} in {error.routine} has the wrong size"

end ForeignGlue
