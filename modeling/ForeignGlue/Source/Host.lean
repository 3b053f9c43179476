/-
Host source.

A C file is a list of items: lines of no further interest, prototypes of functions that are defined
elsewhere, and definitions. Lines are written as they are; C has no limit on their length.
-/

import ForeignGlue.Source.CString
import ForeignGlue.Source.Draft

namespace ForeignGlue.Source

open ForeignGlue.Text

/-- The prototype of a function that is defined elsewhere. -/
structure Prototype where
  /-- The result type, up to the name. -/
  result : String
  name : String
  parameters : List String
  deriving DecidableEq, Repr

/-- The text of a prototype. -/
def Prototype.text (prototype : Prototype) : String :=
  "extern " ++ prototype.result ++ prototype.name ++ "(" ++ join "," prototype.parameters ++ ");"

/-- A definition at file scope. -/
structure Definition where
  /-- What stands before the name. -/
  lead : String
  name : String
  /-- What follows the name on its line. -/
  tail : String
  /-- The lines after that. -/
  body : Draft String := []

/-- An item of a C file. -/
inductive Item where
  | line (text : String)
  | prototype (declared : Prototype)
  | definition (defined : Definition)

/-- The lines of an item. -/
def Item.lines : Item → Draft String
  | .line text => [.ok text]
  | .prototype declared => [.ok declared.text]
  | .definition defined => .ok (defined.lead ++ defined.name ++ defined.tail) :: defined.body

/-- The name that an item defines. -/
def Item.defined? : Item → Option String
  | .line _ => none
  | .prototype _ => none
  | .definition defined => some defined.name

/-- The text of a list of items. -/
def layOutItems (items : List Item) : Draft String :=
  endLines (items.flatMap Item.lines)

/-- The lines of a function body between its braces. -/
def braced (body : Draft String) : Draft String :=
  .ok "\x7b" :: body ++ [.ok "\x7d"]

end ForeignGlue.Source
