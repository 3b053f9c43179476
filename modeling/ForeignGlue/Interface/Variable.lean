/-
Module variables.
-/

import ForeignGlue.Interface.Bound
import ForeignGlue.Interface.ValueType

namespace ForeignGlue

open ForeignGlue.Text

/-- A storage property of a variable. -/
inductive Flag where
  /-- Allocated at run time, and held through a foreign pointer. -/
  | dynamic
  /-- A pointer that foreign code may set to something else, and then reports the new shape. -/
  | reassigned
  /-- An instance of a record type. -/
  | record
  deriving DecidableEq, Repr

/-- The storage properties that a declaration gives: whether it is marked as dynamic, whether
`fassign` is one of its attribute words, and whether its type is a record type. -/
def Flag.ofParts (dynamic : Bool) (attributes : String) (type : ValueType) : List Flag :=
  (if dynamic then [.dynamic] else []) ++
    (if (words attributes).any fun word => sameName word "fassign" then [.reassigned] else []) ++
    (if type.isRecord then [.record] else [])

/-- A module variable, scalar or array. -/
structure Variable where
  name : String
  type : ValueType
  /-- The bounds of its dimensions; a scalar has none. -/
  bounds : List Bound := []
  /-- The group it lives in, which is a module on the foreign side. -/
  group : String
  /-- Attribute words, kept as they are written. -/
  attributes : String := ""
  /-- Whether the declaration marks it as dynamic. -/
  dynamic : Bool := false
  /-- The shape text. -/
  shape : String := ""
  comment : String := ""
  /-- The initial value with its delimiters. -/
  initializer : Option String := none
  /-- The record type it is a member of. -/
  memberOf : Option String := none
  /-- The storage properties, as they were found when the variable was last annotated. -/
  flags : List Flag := []
  deriving DecidableEq, Repr, Inhabited

namespace Variable

/-- A scalar. -/
def scalar (name : String) (type : ValueType) (group : String) : Variable :=
  { name, type, group }

/-- An array, its shape text made of its bounds. -/
def array (name : String) (type : ValueType) (group : String) (bounds : List Bound) : Variable :=
  { name, type, group, bounds, shape := shapeText bounds }

/-- Whether the variable has no dimension. -/
def isScalar (v : Variable) : Bool :=
  v.bounds.isEmpty

/-- The number of dimensions. -/
def rank (v : Variable) : Nat :=
  v.bounds.length

/-- Whether the variable is known to be allocated at run time. -/
def isDynamic (v : Variable) : Bool :=
  v.flags.contains .dynamic

/-- Whether the variable is known to be one that foreign code may reassign. -/
def isReassigned (v : Variable) : Bool :=
  v.flags.contains .reassigned

/-- Whether the variable is known to be an instance of a record type. -/
def isRecord (v : Variable) : Bool :=
  v.flags.contains .record

/-- The variable with its storage properties found anew. -/
def annotate (v : Variable) : Variable :=
  { v with flags := Flag.ofParts v.dynamic v.attributes v.type }

@[simp] theorem annotate_annotate (v : Variable) : v.annotate.annotate = v.annotate :=
  rfl

@[simp] theorem isDynamic_annotate (v : Variable) : v.annotate.isDynamic = v.dynamic := by
  cases dynamic : v.dynamic <;> simp [annotate, isDynamic, Flag.ofParts, dynamic]

@[simp] theorem isRecord_annotate (v : Variable) : v.annotate.isRecord = v.type.isRecord := by
  cases record : v.type.isRecord <;> simp [annotate, isRecord, Flag.ofParts, record]

end Variable

/-- An initial value without its delimiters: the first and the last character that is no blank are
dropped, and the blanks inside them. -/
def initialValue (initializer : String) : String :=
  let chars := trimChars initializer.toList
  if chars.length < 2 then String.ofList chars
  else String.ofList (trimChars chars.tail.dropLast)

end ForeignGlue
