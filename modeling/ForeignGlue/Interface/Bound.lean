/-
Bounds of array dimensions, and the shape text they are written as.
-/

import ForeignGlue.Text.Basic

namespace ForeignGlue

open ForeignGlue.Text

/-- The bounds of one dimension, as expressions. -/
structure Bound where
  low : String
  high : String
  deriving DecidableEq, Repr, Inhabited

namespace Bound

/-- Whether the extent is left open: no upper bound is written, and only the foreign side knows how
far the dimension goes. -/
def isAssumed (bound : Bound) : Bool :=
  isBlankText bound.high

/-- The bound as it is written in a shape. A lower bound of one is left out. -/
def text (bound : Bound) : String :=
  if bound.isAssumed then ":"
  else if trim bound.low == "1" then bound.high
  else bound.low ++ ":" ++ bound.high

end Bound

/-- The shape text of a list of bounds, empty for a scalar. -/
def shapeText (bounds : List Bound) : String :=
  if bounds.isEmpty then "" else "(" ++ join "," (bounds.map Bound.text) ++ ")"

/-! ### The foreign form of a shape text -/

/-- The parts between the commas that stand outside parentheses, `depth` of which are open. -/
def splitOutside : Nat → List Char → List (List Char)
  | _, [] => [[]]
  | depth, c :: cs =>
    if c == ',' && depth == 0 then [] :: splitOutside depth cs
    else
      let inner := if c == '(' then depth + 1 else if c == ')' then depth - 1 else depth
      match splitOutside inner cs with
      | [] => [[c]]
      | part :: parts => (c :: part) :: parts

/-- The text without the parentheses around it, if it starts and ends with one. -/
def stripParentheses : List Char → List Char
  | '(' :: cs => if cs.getLast? == some ')' then cs.dropLast else '(' :: cs
  | cs => cs

/-- One part of a shape on the foreign side: an open extent is taken from the vector of extents that
a binder gets. -/
def foreignPart (part : List Char) (position : Nat) : String :=
  if trimChars part == [':'] then s!"dims__({position})" else String.ofList part

/-- The shape text of a binder's parameter. -/
def foreignForm (shape : String) : String :=
  let parts := splitOutside 0 (stripParentheses (trimChars shape.toList))
  lower ("(" ++ join "," (parts.mapIdx fun index part => foreignPart part (index + 1)) ++ ")")

end ForeignGlue
