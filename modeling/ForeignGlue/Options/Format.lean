/-
Options as a JSON text. Every field has a default.
-/

import ForeignGlue.Json.Record
import ForeignGlue.Options.Basic

namespace ForeignGlue

open ForeignGlue.Json

/-- The source form that a value stands for. -/
def Dialect.ofJson? (value : Json) : Option Dialect := do
  let (name, content) ← value.choice?
  if isBare content then
    if name == "free" then some .free
    else if name == "fixed" then some .fixed
    else none
  else none

/-- The compiler that a value stands for; `null` is a compiler that is not known. -/
def Toolchain.ofJson? (value : Json) : Option Toolchain := do
  let name ← optional? text? value
  some { name := name.getD "" }

/-- The integer kind that a value stands for: a natural number of eight bits. -/
def indexKindOfJson? (value : Json) : Option UInt8 := do
  let kind ← value.nat?
  if kind < 256 then some (.ofNat kind) else none

namespace Options

/-- The options that a value stands for. -/
def ofJson? (value : Json) : Option Options := do
  let defaults : Options := {}
  let fields ← value.fields?
    ["dialect", "write_modules", "time_routines", "initial_allocation", "toolchain",
     "string_lengths_at_end", "index_kind"] 0
  match fields with
  | [dialect, writeModules, timeRoutines, initialAllocation, toolchain, lengthsAtEnd, kind] =>
    let dialect ← default? Dialect.ofJson? defaults.dialect dialect
    let writeModules ← default? bool? defaults.writeModules writeModules
    let timeRoutines ← default? bool? defaults.timeRoutines timeRoutines
    let initialAllocation ← default? bool? defaults.initialAllocation initialAllocation
    let toolchain ← default? Toolchain.ofJson? defaults.toolchain toolchain
    let lengthsAtEnd ← default? bool? defaults.stringLengthsAtEnd lengthsAtEnd
    let kind ← default? indexKindOfJson? defaults.indexKind kind
    some { dialect, writeModules, timeRoutines, initialAllocation, toolchain,
           stringLengthsAtEnd := lengthsAtEnd, indexKind := kind }
  | _ => none

/-- The options that a text holds. -/
def read (text : String) : Option Options := do
  ofJson? (← Json.parse text)

end Options

end ForeignGlue
