/-
What a generation run can be asked for: the source form of the foreign code, the foreign compiler
it is meant for, and which parts are written.
-/

import ForeignGlue.Text.Basic
import ForeignGlue.Word

namespace ForeignGlue

open ForeignGlue.Text

/-- The source form of the foreign code. -/
inductive Dialect where
  /-- Lines of up to 132 characters, with modules and pointers. -/
  | free
  /-- Statements from column 7 to column 72, with `Use` macros and data statements. -/
  | fixed
  deriving DecidableEq, Repr, Inhabited

namespace Dialect

/-- The longest line the foreign compiler accepts, in bytes. -/
def lineLimit : Dialect → Nat
  | .free => 132
  | .fixed => 72

/-- The extension of a foreign source file. -/
def extension : Dialect → String
  | .free => "F90"
  | .fixed => "m"

end Dialect

/-- The foreign compiler, by name. The name is empty when the compiler is not known. -/
structure Toolchain where
  name : String := ""
  deriving DecidableEq, Repr, Inhabited

namespace Toolchain

/-- The attribute that a module variable needs to keep its value. -/
def saveAttribute (toolchain : Toolchain) : String :=
  if toolchain.name == "xlf" then ",SAVE" else ""

/-- Whether the compiler's runtime has to be started when the module is loaded. -/
def needsRuntimeStart (toolchain : Toolchain) : Bool :=
  toolchain.name == "nag"

/-- Whether a symbol with an underscore in it gets a second one at its end. -/
def doublesUnderscore (toolchain : Toolchain) : Bool :=
  toolchain.name == "g77" || toolchain.name == "g95"

/-- The name under which the linker knows a foreign symbol. -/
def linkName (toolchain : Toolchain) (symbol : String) : String :=
  if toolchain.name == "xlf" then lower symbol
  else if toolchain.doublesUnderscore && (lower symbol).toList.contains '_' then lower symbol ++ "__"
  else lower symbol ++ "_"

end Toolchain

/-- The options of one generation run. -/
structure Options where
  dialect : Dialect := .free
  /-- Whether the group modules are written. -/
  writeModules : Bool := true
  /-- Whether the time spent in each routine is added up. -/
  timeRoutines : Bool := false
  /-- Whether every dynamic group is allocated when the module is loaded. -/
  initialAllocation : Bool := false
  toolchain : Toolchain := {}
  /-- Whether lengths of strings are passed after all other arguments. -/
  stringLengthsAtEnd : Bool := true
  /-- The integer kind of indices and addresses on the foreign side. -/
  indexKind : UInt8 := 8
  deriving DecidableEq, Repr, Inhabited

namespace Options

/-- The foreign spelling of an index. -/
def indexLiteral (options : Options) (value : Int) : String :=
  s!"int({value},{options.indexKind.toNat})"

/-- The foreign spelling of a table position, taken as a 64-bit signed integer. -/
def slotLiteral (options : Options) (slot : Nat) : String :=
  options.indexLiteral ((slot : Int).bmod wordCount)

end Options

end ForeignGlue
