/-
Generation of a module.

A module has three artifacts: the host source, the foreign source and the scalar index. The host
source comes first, then the code of record types, then the foreign source. Generation stops at the
first error.
-/

import ForeignGlue.Host.Binders
import ForeignGlue.Host.ModuleInit
import ForeignGlue.Host.Prototypes
import ForeignGlue.Host.Shapes
import ForeignGlue.Host.Tables
import ForeignGlue.Host.Wrapper
import ForeignGlue.Linkage.GroupModule
import ForeignGlue.Linkage.Subroutine

namespace ForeignGlue

open ForeignGlue.Source

/-! ### Record types -/

/-- The code of record types, which is made elsewhere. -/
structure RecordCode where
  host : String := ""
  foreign : String := ""
  deriving DecidableEq, Repr

/-- What makes the code of record types. -/
abbrev RecordEmitter := Context → Except GenerationError RecordCode

namespace RecordEmitter

/-- Makes no code. -/
def none : RecordEmitter := fun _ => .ok {}

/-- Makes the same code for every module. -/
def ofLines (host : List String) (foreign : List Line) : RecordEmitter := fun ctx => do
  let (source, written) := ForeignText.putAll { dialect := ctx.options.dialect } foreign
  written
  return { host := String.join (host.map (· ++ "\n")), foreign := source.text }

end RecordEmitter

/-! ### Sources -/

namespace Context

/-- The items of the host file. -/
def hostItems (ctx : Context) : List Item :=
  ctx.prototypeItems ++ ctx.binderPrototypeItems ++ ctx.scalarTableItems ++ ctx.arrayTableItems ++
    ctx.wrappersItems ++ ctx.methodTableItems ++ ctx.staticShapeItems ++ ctx.dynamicShapeItems ++
    ctx.binderItems ++ ctx.moduleInitItems

/-- The host source, without the code of record types. -/
def hostSource (ctx : Context) : Except GenerationError String :=
  (layOutItems ctx.hostItems).finish

/-- The foreign source of the group modules, if it is asked for. -/
def groupSource (ctx : Context) : Except GenerationError String :=
  if ctx.options.writeModules then ctx.modulesDraft.finish else .ok ""

/-- The foreign source: record types, group modules, then subroutines, which use what stands before
them. An error in the subroutines comes before one in the modules. -/
def foreignSource (ctx : Context) (records : String) : Except GenerationError String := do
  let subroutines ← ctx.linkageDraft.finish
  let modules ← ctx.groupSource
  return records ++ modules ++ subroutines

end Context

/-! ### Modules -/

/-- What is generated for a module. -/
structure GeneratedModule where
  module : String
  dialect : Dialect
  hostSource : String
  foreignSource : String
  index : ScalarIndex
  deriving DecidableEq

namespace GeneratedModule

/-- The name of the host file of a module. -/
def hostFileOf (module : String) : String :=
  module ++ "pymodule.c"

/-- The name of the foreign file of a module. -/
def foreignFileOf (module : String) (dialect : Dialect) : String :=
  module ++ "_p." ++ dialect.extension

/-- The name of the host file. -/
def hostFile (generated : GeneratedModule) : String :=
  hostFileOf generated.module

/-- The name of the foreign file. -/
def foreignFile (generated : GeneratedModule) : String :=
  foreignFileOf generated.module generated.dialect

end GeneratedModule

/-- A generator: options, spellings of types, external scalars, and what makes the code of record
types. -/
structure Generator where
  options : Options := {}
  types : TypeTable := .standard
  externals : List ScalarIndex := []
  records : RecordEmitter := RecordEmitter.none

namespace Generator

/-- The context of an interface. Timers are added if routines are timed. -/
def context (generator : Generator) (interface : Interface) : Context where
  inventory := .ofInterface
    (if generator.options.timeRoutines then interface.addTimers else interface)
  options := generator.options
  types := generator.types
  externals := generator.externals

/-- The artifacts of a context, from its two sources. -/
def assemble (ctx : Context) (host foreign : String) : GeneratedModule where
  module := ctx.module
  dialect := ctx.options.dialect
  hostSource := host
  foreignSource := foreign
  index := ctx.inventory.index

/-- Generates all artifacts of a module. -/
def generate (generator : Generator) (interface : Interface) :
    Except GenerationError GeneratedModule := do
  let ctx := generator.context interface
  let host ← ctx.hostSource
  let records ← generator.records ctx
  let foreign ← ctx.foreignSource records.foreign
  return assemble ctx (host ++ records.host) foreign

/-- Generates the group modules alone. -/
def moduleDeclarations (generator : Generator) (interface : Interface) :
    Except GenerationError String :=
  (generator.context interface).modulesDraft.finish

end Generator

end ForeignGlue
