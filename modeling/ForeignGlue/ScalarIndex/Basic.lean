/-
Scalar indexes.

A module publishes the names and slots of its scalars, so that a module generated later can use them
in its bounds.
-/

import ForeignGlue.Interface.Variable
import ForeignGlue.ScalarIndex.SlotMap

namespace ForeignGlue

open ForeignGlue.Text

/-- The slots of the scalars of a table, by their names in lower case. Of two scalars of one name
the later one counts. -/
def SlotMap.ofScalars (scalars : List Variable) : SlotMap :=
  SlotMap.ofList (scalars.mapIdx fun slot scalar => (lower scalar.name, slot))

/-- The published scalars of a module. -/
structure ScalarIndex where
  module : String
  /-- The slot of each name, in lower case. -/
  slots : SlotMap
  /-- The scalars in table order. -/
  scalars : List Variable
  deriving DecidableEq

namespace ScalarIndex

/-- The index of the scalars of a table. -/
def ofScalars (module : String) (scalars : List Variable) : ScalarIndex :=
  { module, slots := .ofScalars scalars, scalars }

/-- The slot of a name, in any case. -/
def slot? (index : ScalarIndex) (name : String) : Option Nat :=
  index.slots.get? (lower name)

/-- The scalar in a slot. -/
def scalar? (index : ScalarIndex) (slot : Nat) : Option Variable :=
  index.scalars[slot]?

/-- The index with the storage properties of every scalar found anew. -/
def annotate (index : ScalarIndex) : ScalarIndex :=
  { index with scalars := index.scalars.map Variable.annotate }

/-- The name of the C table of a module's scalars. -/
def tableName (index : ScalarIndex) : String :=
  index.module ++ "_fscalars"

/-- The name of the file that a module's index is kept in. -/
def fileName (module : String) : String :=
  module ++ ".scalars"

end ScalarIndex

end ForeignGlue
