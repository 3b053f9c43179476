/-
Group modules.

In free form each group is a foreign module that declares the variables of the group, scalars before
arrays. It makes known the modules of the record types it has instances of, and the groups of the
scalars that the shapes of its static arrays name.
-/

import ForeignGlue.Context
import ForeignGlue.Source.Foreign

namespace ForeignGlue

open ForeignGlue.Source

/-- The module of a group. -/
structure GroupModule where
  name : String
  /-- The modules of record types. -/
  recordModules : List String
  /-- The groups that shapes need. -/
  shapeGroups : Except GenerationError (List String)
  /-- The declarations, and the initial values of static arrays. -/
  declarations : List Statement

/-- The statements of a module. -/
def GroupModule.statements (group : GroupModule) : Draft Statement :=
  .ok (.moduleStart group.name) :: Draft.ofList (group.recordModules.map .use) ++
    match group.shapeGroups with
    | .error error => [.error error]
    | .ok groups => Draft.ofList <|
      groups.map .use ++ [.plain "  SAVE"] ++ group.declarations ++ [.moduleEnd group.name]

/-- The name of the record type that a variable is an instance of. -/
def Variable.recordName? (v : Variable) : Option String :=
  match v.type with
  | .record name => some name
  | _ => none

namespace Context

/-- The declaration of a scalar. -/
def declareScalar (ctx : Context) (v : Variable) : Statement :=
  .declare
    { type := ctx.types.foreign v.type
      pointer := if v.isDynamic then ",POINTER" else ""
      save := ctx.options.toolchain.saveAttribute
      name := v.name
      value := v.initializer.map initialValue }

/-- The type of an array. The first dimension of a character array is the length of its strings. -/
def arrayType (ctx : Context) (v : Variable) : String :=
  match v.type, v.bounds with
  | .character, length :: _ => s!"character(len={length.high})"
  | type, _ => ctx.types.foreign type

/-- The axes of a dynamic array. -/
def pointerAxes (v : Variable) : Axes :=
  let count := if v.type.isCharacter then v.rank - 1 else v.rank
  if count = 0 then .none else .deferred count

/-- The declaration of an array, and its initial value if it is static. -/
def declareArray (ctx : Context) (v : Variable) : List Statement :=
  let save := ctx.options.toolchain.saveAttribute
  if v.isDynamic then
    [.declare
      { type := ctx.arrayType v, pointer := ",pointer", save, name := v.name,
        axes := pointerAxes v }]
  else
    .declare { type := ctx.arrayType v, save, name := v.name, axes := .declared v.shape } ::
      match v.initializer with
      | some initializer => [.data 2 v.name initializer]
      | none => []

/-- The groups, other than its own, of the scalars that the shapes of a group's static arrays
name. -/
def shapeGroups (ctx : Context) (group : String) : Except GenerationError (List String) := do
  let arrays := (ctx.inventory.variablesIn group).filter fun v => !v.isScalar && !v.isDynamic
  let groups ← collect (arrays.map fun v => ctx.scope.groupsIn v.shape)
  return distinct (groups.flatten.filter fun other => other != group)

/-- The module of a group. -/
def groupModule (ctx : Context) (group : String) : GroupModule :=
  let members := ctx.inventory.variablesIn group
  { name := group
    recordModules := (distinct (members.filterMap Variable.recordName?)).map (· ++ "module")
    shapeGroups := ctx.shapeGroups group
    declarations :=
      (members.filter Variable.isScalar).map ctx.declareScalar ++
        (members.filter fun v => !v.isScalar).flatMap ctx.declareArray }

/-- The modules of all groups. Fixed form has none. -/
def groupModules (ctx : Context) : List GroupModule :=
  match ctx.options.dialect with
  | .free => ctx.inventory.groupNames.map ctx.groupModule
  | .fixed => []

/-- The foreign source of the modules. -/
def modulesDraft (ctx : Context) : Draft String :=
  layOutStatements ctx.options.dialect (ctx.groupModules.flatMap GroupModule.statements)

end Context

end ForeignGlue
