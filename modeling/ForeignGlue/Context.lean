/-
What everything generated for a module is generated from.
-/

import ForeignGlue.Descriptor.Package
import ForeignGlue.Inventory
import ForeignGlue.Options.Basic
import ForeignGlue.Scope
import ForeignGlue.Symbol.Basic

namespace ForeignGlue

/-- A module, the options, the spellings of types, and the external scalars. -/
structure Context where
  inventory : Inventory
  options : Options := {}
  types : TypeTable := .standard
  /-- The scalar indexes of other modules, in the order they are tried. -/
  externals : List ScalarIndex := []

namespace Context

/-- The name of the module. -/
def module (ctx : Context) : String :=
  ctx.inventory.module

/-- Whether the foreign code is written in free form. -/
def isFree (ctx : Context) : Bool :=
  ctx.options.dialect == .free

/-- The C name of the scalar table. -/
def scalarTable (ctx : Context) : String :=
  ctx.module ++ "_fscalars"

/-- The C name of the array table. -/
def arrayTable (ctx : Context) : String :=
  ctx.module ++ "_farrays"

/-- Where the names in bounds are looked up. -/
def scope (ctx : Context) : Scope where
  module := ctx.module
  dictionary := ctx.inventory.dictionary
  scalars := ctx.inventory.scalars
  externals := ctx.externals

/-- The name of a generated subroutine in foreign source. -/
def foreignSymbol (ctx : Context) (role variableName : String) : String :=
  Symbol.generated ctx.module role variableName

/-- The name of a generated subroutine as C sees it. -/
def linkSymbol (ctx : Context) (role variableName : String) : String :=
  ctx.options.toolchain.linkName (ctx.foreignSymbol role variableName)

/-- The C name of a routine. -/
def routineSymbol (ctx : Context) (routine : Routine) : String :=
  match routine.convention with
  | .foreign => ctx.options.toolchain.linkName routine.name
  | .plain => routine.name

/-- The C name of a wrapper or constructor. -/
def wrapperName (ctx : Context) (name : String) : String :=
  Symbol.wrapper ctx.module name

/-- The foreign spelling of a table slot. -/
def slotLiteral (ctx : Context) (slot : Nat) : String :=
  ctx.options.slotLiteral slot

/-! ### Layout of the descriptor tables -/

/-- Whether a scalar has a subroutine of its own that binds it. -/
def scalarHasSetter (ctx : Context) (v : Variable) : Bool :=
  ctx.isFree && (v.isDynamic || v.isRecord)

/-- Whether a scalar has a subroutine of its own that tells its instance. -/
def scalarHasGetter (ctx : Context) (v : Variable) : Bool :=
  ctx.isFree && v.isDynamic && v.isRecord

/-- Whether an array has a subroutine of its own that binds it. -/
def arrayHasSetter (ctx : Context) (v : Variable) : Bool :=
  ctx.isFree && v.isDynamic

/-- Whether an array has a subroutine of its own that tells its buffer and shape. -/
def arrayHasGetter (ctx : Context) (v : Variable) : Bool :=
  ctx.isFree && v.isDynamic && v.isReassigned

/-- The descriptor of a scalar. -/
def scalarDescriptor (ctx : Context) (v : Variable) : ScalarDescriptor where
  element := ctx.types.element v.type
  typeTag := v.type.tag
  name := v.name
  group := v.group
  attributes := v.attributes
  comment := v.comment
  dynamic := v.isDynamic
  setter := if ctx.scalarHasSetter v then some (ctx.linkSymbol "setpointer" v.name) else none
  getter := if ctx.scalarHasGetter v then some (ctx.linkSymbol "getpointer" v.name) else none

/-- What a new buffer of an array is filled with. -/
def fillValue (v : Variable) : String :=
  match v.initializer with
  | some initializer => if v.isDynamic then initialValue initializer else "0"
  | none => "0"

/-- The descriptor of an array. -/
def arrayDescriptor (ctx : Context) (v : Variable) : ArrayDescriptor where
  element := ctx.types.element v.type
  name := v.name
  group := v.group
  attributes := v.attributes
  comment := v.comment
  shapeText := v.shape
  dynamic := v.isDynamic
  rank := v.rank
  setter := if ctx.arrayHasSetter v then some (ctx.linkSymbol "setpointer" v.name) else none
  getter := if ctx.arrayHasGetter v then some (ctx.linkSymbol "getpointer" v.name) else none
  initialValue := fillValue v

/-- The descriptor tables of the module. A variable's slot is its position in the inventory. -/
def package (ctx : Context) : Package where
  module := ctx.module
  scalars := ctx.inventory.scalars.map ctx.scalarDescriptor
  arrays := ctx.inventory.arrays.map ctx.arrayDescriptor

@[simp] theorem scalarTable_package (ctx : Context) : ctx.package.scalarTable = ctx.scalarTable :=
  rfl

@[simp] theorem arrayTable_package (ctx : Context) : ctx.package.arrayTable = ctx.arrayTable :=
  rfl

end Context

end ForeignGlue
