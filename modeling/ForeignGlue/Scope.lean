/-
What the names in a bound refer to.

A name is looked up among the module's own scalars first, then in the indexes of external modules in
their order; the first that has it counts. A bound becomes a C expression in which every name reads
its slot of a scalar table, unless it is bound to a local variable.
-/

import ForeignGlue.Distinct
import ForeignGlue.Error
import ForeignGlue.Expression.Token
import ForeignGlue.ScalarIndex.Basic

namespace ForeignGlue

open ForeignGlue.Text

/-- A slot of a scalar table. -/
inductive Slot where
  /-- A slot of the module's own table. -/
  | own (slot : Nat)
  /-- A slot of the table of an external module. -/
  | external (index : ScalarIndex) (slot : Nat)
  deriving DecidableEq

/-- Where names are looked up. -/
structure Scope where
  module : String
  /-- The slots of the module's own scalars, by their names in lower case. -/
  dictionary : SlotMap
  /-- The module's own scalars in table order. -/
  scalars : List Variable
  /-- The indexes of external modules, in the order they are tried. -/
  externals : List ScalarIndex

/-- A part of a C expression that a bound is turned into. -/
inductive Piece where
  /-- Text that is the same on both sides. -/
  | verbatim (text : String)
  /-- A local variable. -/
  | local (name : String)
  /-- The value in a table slot. -/
  | slot (slot : Slot)
  deriving DecidableEq

/-- The extent of a dimension: its upper and its lower bound as C expressions. -/
structure Extent where
  high : List Piece
  low : List Piece
  deriving DecidableEq

/-- The local variables that names are bound to. -/
abbrev Binding := String → Option String

/-- No name is bound. -/
def Binding.none : Binding := fun _ => Option.none

/-- The first of a list of outcomes that is an error, or all their values. -/
def collect {α : Type} : List (Except GenerationError α) → Except GenerationError (List α)
  | [] => .ok []
  | .error error :: _ => .error error
  | .ok value :: outcomes =>
    match collect outcomes with
    | .error error => .error error
    | .ok values => .ok (value :: values)

namespace Scope

/-- The slot of a name. -/
def resolve (scope : Scope) (name : String) : Except GenerationError Slot :=
  match scope.dictionary.get? (lower name) with
  | some slot => .ok (.own slot)
  | none =>
    match scope.externals.findSome? fun index => (index.slot? name).map (Slot.external index) with
    | some slot => .ok slot
    | none => .error (.unresolved name)

/-- The group of the scalar in a slot. -/
def groupOf (scope : Scope) : Slot → Option String
  | .own slot => scope.scalars[slot]?.map Variable.group
  | .external index slot => (index.scalar? slot).map Variable.group

/-- The C expression that reads a slot. -/
def slotText (scope : Scope) : Slot → String
  | .own slot => s!"*(long *){scope.module}_fscalars[{slot}].data"
  | .external index slot => s!"*(long *){index.tableName}[{slot}].data"

/-- A number as C spells it, which has no exponent with `d`. -/
def numberText (digits : List Char) : String :=
  String.ofList (digits.map fun c => if c.toLower == 'd' then 'e' else c.toLower)

/-- The part of a C expression that a token becomes. -/
def piece (scope : Scope) (binding : Binding) (token : Expression.Token) :
    Except GenerationError Piece :=
  match token.kind with
  | .name =>
    match binding token.text with
    | some label => .ok (.local label)
    | none => (scope.resolve token.text).map Piece.slot
  | .number => .ok (.verbatim (numberText token.chars))
  | .other => .ok (.verbatim (lower token.text))

/-- The parts of the C expression that a bound becomes. -/
def pieces (scope : Scope) (binding : Binding) (expression : String) :
    Except GenerationError (List Piece) :=
  collect ((Expression.tokens expression).map (scope.piece binding))

/-- The text of a part. -/
def pieceText (scope : Scope) : Piece → String
  | .verbatim text => text
  | .local name => name
  | .slot slot => scope.slotText slot

/-- The text of an expression. -/
def piecesText (scope : Scope) (pieces : List Piece) : String :=
  String.join (pieces.map scope.pieceText)

/-- The C text of a bound. -/
def hostForm (scope : Scope) (binding : Binding) (expression : String) :
    Except GenerationError String :=
  (scope.pieces binding expression).map scope.piecesText

/-- The extent of a dimension. The upper bound is looked at first. -/
def extent (scope : Scope) (binding : Binding) (bound : Bound) : Except GenerationError Extent := do
  let high ← scope.pieces binding bound.high
  let low ← scope.pieces binding bound.low
  return { high, low }

/-- The C text of an extent. -/
def extentText (scope : Scope) (extent : Extent) : String :=
  s!"(({scope.piecesText extent.high})-({scope.piecesText extent.low})+1)"

/-- A C condition that holds unless one of the extents is zero. -/
def nonzeroGuard (scope : Scope) (extents : List Extent) : String :=
  "1" ++ String.join (extents.map fun extent => "*" ++ scope.extentText extent) ++ " != 0"

/-- The groups of the scalars that a shape text names, each where it first appears. -/
def groupsIn (scope : Scope) (shape : String) : Except GenerationError (List String) := do
  let slots ← collect ((Expression.names shape).map scope.resolve)
  return distinct (slots.filterMap scope.groupOf)

end Scope

end ForeignGlue
