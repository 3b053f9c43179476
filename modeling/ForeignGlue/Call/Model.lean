/-
A model of what a wrapper does before it enters the foreign routine.

Every argument is converted to a buffer first, since a later argument may size an earlier one. Then
ranks and extents are checked, bounds being evaluated with the values of the arguments and of the
module's scalars.
-/

import ForeignGlue.Call.Error
import ForeignGlue.Expression.Eval
import ForeignGlue.Interface.Routine

namespace ForeignGlue

open ForeignGlue.Text
open ForeignGlue.Expression (evaluate)

/-- A value that the host passes. -/
inductive HostValue where
  | int (value : Int)
  | float (value : Float)
  | complex (re im : Float)
  | text (content : String)
  /-- An array, by the type of its elements and its shape. -/
  | array (element : ValueType) (shape : List Nat)
  /-- An instance of a record type. -/
  | record (typeName : String)
  /-- A value that no array can be made of. -/
  | unconvertible

/-- What an argument is converted to. -/
structure Buffer where
  /-- The position of the argument, counted from zero. -/
  position : Nat
  /-- The number of dimensions, zero for a bare value. -/
  rank : Nat
  shape : List Nat
  /-- The value of a bare number, as an integer. -/
  value : Option Int
  deriving DecidableEq, Repr

/-- Why a call does not go through. -/
inductive CallFailure where
  | refused (error : CallError)
  /-- A bound holds a character that no expression may hold; the check is given up. -/
  | abandoned
  deriving DecidableEq, Repr

/-- The number under which a value goes as a 64-bit integer: the part before the point, the nearest
end of the range if it lies outside, and zero if it is no number. -/
def wholePart (value : Float) : Int :=
  value.toInt64.toInt

/-- The widening order of numbers: truth values and integers, reals, complex numbers. -/
def ValueType.level? : ValueType → Option Nat
  | .integer | .logical => some 0
  | .real | .double => some 1
  | .complex => some 2
  | .character | .record _ => none

/-- Whether data of type `given` can be passed where `declared` is expected. -/
def ValueType.accepts (declared given : ValueType) : Bool :=
  match declared.level?, given.level? with
  | some declaredLevel, some givenLevel => givenLevel ≤ declaredLevel
  | none, _ => declared.isCharacter && given.isCharacter
  | some _, none => false

/-- The data of a host value: its type, its shape and, for a bare number, its integer value. -/
def HostValue.data? : HostValue → Option (ValueType × List Nat × Option Int)
  | .int value => some (.integer, [], some value)
  | .float value => some (.real, [], some (wholePart value))
  | .complex _ _ => some (.complex, [], none)
  | .text content => some (.character, [byteSize content.toList], none)
  | .array element shape => some (element, shape, none)
  | .record _ => none
  | .unconvertible => none

/-- The buffer of an argument. -/
def Argument.convert (declared : Argument) (value : HostValue) : Except CallFault Buffer :=
  match declared.type, value with
  | .record expected, .record given =>
    if given == expected then
      .ok { position := declared.position, rank := 0, shape := [], value := none }
    else .error .wrongType
  | .record _, _ => .error .wrongType
  | _, .unconvertible => .error .conversion
  | type, value =>
    match value.data? with
    | none => .error .wrongType
    | some (given, shape, number) =>
      if type.accepts given then
        .ok { position := declared.position, rank := shape.length, shape, value := number }
      else .error .wrongType

namespace Routine

/-- The error of an argument of the routine. -/
def refusal (routine : Routine) (argument : Nat) (fault : CallFault) : CallError :=
  { routine := routine.name, argument, fault }

/-- The buffers of all arguments, up to the first that has none. -/
def convertAll (routine : Routine) : List Argument → List HostValue → Except CallError (List Buffer)
  | declared :: arguments, value :: values =>
    match declared.convert value with
    | .error fault => .error (routine.refusal (declared.position + 1) fault)
    | .ok buffer => (routine.convertAll arguments values).map (buffer :: ·)
  | _, _ => .ok []

/-- The buffers of the arguments of a call. -/
def convert (routine : Routine) (values : List HostValue) : Except CallError (List Buffer) :=
  if values.length = routine.arguments.length then routine.convertAll routine.arguments values
  else
    .error (routine.refusal 0 (.argumentCount routine.arguments.length values.length))

/-- The value of a name in a bound: of the argument of that name if it has one, and else of the
module scalar. -/
def valueOf (routine : Routine) (scalars : String → Option Int) (buffers : List Buffer)
    (name : String) : Option Int :=
  ((routine.find? name).bind fun argument =>
    buffers[argument.position]?.bind Buffer.value).or (scalars name)

end Routine

/-! ### Extents -/

/-- Why the extents of an argument have no value. -/
inductive ExtentFault where
  /-- A bound has no value, or a result leaves the 64-bit range. -/
  | noValue
  /-- A bound holds a character that no expression may hold. -/
  | unreadable
  deriving DecidableEq, Repr

/-- A value, if it is a 64-bit signed integer. -/
def inWord (value : Int) : Except ExtentFault Int :=
  if fitsWord value then .ok value else .error .noValue

/-- The value of a bound. -/
def boundValue (lookup : String → Option Int) (expression : String) : Except ExtentFault Int :=
  match evaluate expression lookup with
  | .ok value => .ok value
  | .error .unreadable => .error .unreadable
  | .error _ => .error .noValue

/-- The declared extent of a dimension, `none` if it is left open. -/
def Bound.extent (lookup : String → Option Int) (bound : Bound) :
    Except ExtentFault (Option Int) :=
  if bound.isAssumed then .ok none
  else do
    let high ← boundValue lookup bound.high
    let low ← boundValue lookup bound.low
    let span ← inWord (high - low)
    let extent ← inWord (span + 1)
    return some extent

/-- The declared extents of all dimensions. -/
def extentsOf (lookup : String → Option Int) (bounds : List Bound) :
    Except ExtentFault (List (Option Int)) :=
  bounds.mapM (Bound.extent lookup)

/-- The product of the known extents, from left to right. -/
def elementTotal (extents : List (Option Int)) : Except ExtentFault Int :=
  (extents.filterMap id).foldlM (fun total extent => inWord (total * extent)) 1

/-- Whether a buffer has a declared extent at an axis. A bare value stands for an array with one
dimension. -/
def Buffer.matches (buffer : Buffer) (rank axis : Nat) (extent : Int) : Bool :=
  (rank == 1 && buffer.rank == 0) || buffer.shape[axis]?.map Int.ofNat == some extent

/-- The first dimension, counted from one, in which a buffer has not the declared extent. -/
def Buffer.mismatch? (buffer : Buffer) (rank : Nat) (extents : List (Option Int)) : Option Nat :=
  let outcomes := extents.mapIdx fun axis extent =>
    match extent with
    | none => true
    | some extent => buffer.matches rank axis extent
  (outcomes.findIdx? fun agrees => !agrees).map (· + 1)

/-- Why the shape of an argument is not accepted. -/
inductive ShapeFault where
  | call (fault : CallFault)
  | unreadable
  deriving DecidableEq, Repr

/-- A fault in the extents as one in the shape. -/
def ExtentFault.shapeFault : ExtentFault → ShapeFault
  | .noValue => .call .conversion
  | .unreadable => .unreadable

/-- Checks the shape of a buffer. The extents of an array without elements are not compared. -/
def Argument.checkShape (declared : Argument) (lookup : String → Option Int) (buffer : Buffer) :
    Except ShapeFault Unit := do
  if !(buffer.rank == declared.rank || (declared.rank == 1 && buffer.rank == 0)) then
    throw (.call .wrongRank)
  let extents ← (extentsOf lookup declared.bounds).mapError ExtentFault.shapeFault
  let total ← (elementTotal extents).mapError ExtentFault.shapeFault
  if total == 0 then return ()
  match buffer.mismatch? declared.rank extents with
  | none => return ()
  | some dimension => throw (.call (.wrongDimension dimension))

namespace Routine

/-- A fault in the shape of an argument as a failure of the call. -/
def shapeFailure (routine : Routine) (argument : Nat) : ShapeFault → CallFailure
  | .call fault => .refused (routine.refusal argument fault)
  | .unreadable => .abandoned

/-- Checks the shapes of the buffers of all arguments in order. `current` is the number of the
argument that was looked at last; the result is the one at the end. -/
def checkShapes (routine : Routine) (lookup : String → Option Int) (current : Nat) :
    List (Argument × Buffer) → Except CallFailure Nat
  | [] => .ok current
  | (declared, buffer) :: pairs =>
    if declared.isChecked then
      match declared.checkShape lookup buffer with
      | .error fault => .error (routine.shapeFailure (declared.position + 1) fault)
      | .ok () => routine.checkShapes lookup (declared.position + 1) pairs
    else routine.checkShapes lookup current pairs

/-- Checks the buffers of a call. The result is the number of the argument that a later fault inside
the routine is attributed to. -/
def validate (routine : Routine) (scalars : String → Option Int) (buffers : List Buffer) :
    Except CallFailure Nat :=
  routine.checkShapes (routine.valueOf scalars buffers) buffers.length
    (routine.arguments.zip buffers)

/-- The buffers of a call, all checked. -/
def check (routine : Routine) (scalars : String → Option Int) (values : List HostValue) :
    Except CallFailure (List Buffer) := do
  let buffers ← (routine.convert values).mapError .refused
  let _ ← routine.validate scalars buffers
  return buffers

/-- A call of the routine. The body gets the checked buffers and may fault. -/
def invoke {α : Type} (routine : Routine) (scalars : String → Option Int)
    (values : List HostValue) (body : List Buffer → Option α) : Except CallFailure α := do
  let buffers ← (routine.convert values).mapError .refused
  let argument ← routine.validate scalars buffers
  match body buffers with
  | some result => return result
  | none => throw (.refused (routine.refusal argument .foreignFault))

end Routine

end ForeignGlue
