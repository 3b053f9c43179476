/-
The file format of scalar indexes.

An index is kept as a JSON text. `write` and `read` are its two directions.
-/

import ForeignGlue.Json.Printer
import ForeignGlue.Json.Record
import ForeignGlue.ScalarIndex.Basic
import ForeignGlue.Word

namespace ForeignGlue

open ForeignGlue.Json

/-! ### Writing -/

/-- A type: the capitalised tag of a built-in type, or an object with the name of a record type. -/
def ValueType.toJson : ValueType → Json
  | .integer => .ofText "Integer"
  | .real => .ofText "Real"
  | .double => .ofText "Double"
  | .complex => .ofText "Complex"
  | .logical => .ofText "Logical"
  | .character => .ofText "Character"
  | .record name => .ofMembers [("Record", .ofText name)]

/-- The bounds of a dimension. -/
def Bound.toJson (bound : Bound) : Json :=
  .ofMembers [("low", .ofText bound.low), ("high", .ofText bound.high)]

/-- A scalar or array, without its storage properties. -/
def Variable.toJson (v : Variable) : Json :=
  .ofMembers
    [("name", .ofText v.name),
     ("ty", v.type.toJson),
     ("dims", .ofList Bound.toJson v.bounds),
     ("group", .ofText v.group),
     ("attributes", .ofText v.attributes),
     ("dynamic", .bool v.dynamic),
     ("dimstring", .ofText v.shape),
     ("comment", .ofText v.comment),
     ("data", .ofOption .ofText v.initializer),
     ("record_type", .ofOption .ofText v.memberOf)]

/-- The slots, in increasing order of the names. -/
def SlotMap.toJson (slots : SlotMap) : Json :=
  .ofMembers (slots.entries.map fun (name, slot) => (name, .ofNat slot))

namespace ScalarIndex

/-- The JSON value of an index. -/
def toJson (index : ScalarIndex) : Json :=
  .ofMembers
    [("module", .ofText index.module),
     ("index", index.slots.toJson),
     ("scalars", .ofList Variable.toJson index.scalars)]

/-- The file text of an index. -/
def write (index : ScalarIndex) : String :=
  index.toJson.pretty

end ScalarIndex

/-! ### Reading -/

/-- The type that a value stands for. -/
def ValueType.ofJson? (value : Json) : Option ValueType := do
  let (name, content) ← value.choice?
  if name == "Record" then
    let content ← content
    let recordName ← content.text?
    some (.record recordName)
  else if isBare content then
    if name == "Integer" then some .integer
    else if name == "Real" then some .real
    else if name == "Double" then some .double
    else if name == "Complex" then some .complex
    else if name == "Logical" then some .logical
    else if name == "Character" then some .character
    else none
  else none

/-- The bounds that a value stands for. -/
def Bound.ofJson? (value : Json) : Option Bound := do
  match ← value.fields? ["low", "high"] 2 with
  | [low, high] =>
    let low ← required? text? low
    let high ← required? text? high
    some { low, high }
  | _ => none

/-- The variable that a value stands for. -/
def Variable.ofJson? (value : Json) : Option Variable := do
  let fields ← value.fields?
    ["name", "ty", "dims", "group", "attributes", "dynamic", "dimstring", "comment", "data",
     "record_type"] 10
  match fields with
  | [name, type, bounds, group, attributes, isDynamic, shape, comment, initializer, memberOf] =>
    let name ← required? text? name
    let type ← required? ValueType.ofJson? type
    let bounds ← required? (list? Bound.ofJson?) bounds
    let group ← required? text? group
    let attributes ← required? text? attributes
    let isDynamic ← required? bool? isDynamic
    let shape ← required? text? shape
    let comment ← required? text? comment
    let initializer ← default? (optional? text?) none initializer
    let memberOf ← default? (optional? text?) none memberOf
    some { name, type, bounds, group, attributes, dynamic := isDynamic, shape, comment, initializer,
           memberOf }
  | _ => none

/-- A table slot: a natural number of 64 bits. -/
def slotOfJson? (value : Json) : Option Nat := do
  let slot ← value.nat?
  if slot < wordCount then some slot else none

/-- The slots that a value stands for. Of two entries of one name the later one counts. -/
def SlotMap.ofJson? (value : Json) : Option SlotMap := do
  let members ← value.members?
  let entries ← members.mapM fun (name, slot) => (slotOfJson? slot).map (name, ·)
  some (.ofList entries)

namespace ScalarIndex

/-- The index that a value stands for. -/
def ofJson? (value : Json) : Option ScalarIndex := do
  match ← value.fields? ["module", "index", "scalars"] 3 with
  | [module, slots, scalars] =>
    let module ← required? text? module
    let slots ← required? SlotMap.ofJson? slots
    let scalars ← required? (list? Variable.ofJson?) scalars
    some { module, slots, scalars }
  | _ => none

/-- The index that a file text holds. -/
def read (text : String) : Option ScalarIndex := do
  ofJson? (← Json.parse text)

end ScalarIndex

end ForeignGlue
