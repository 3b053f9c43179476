/-
The foreign half of the pointer protocol.

`passpointers` hands the address of every static variable to the host, `nullifypointers` puts every
pointer into a known state, and in free form each dynamic variable has a subroutine that binds it
and, where it is needed, one that tells what it is bound to. In fixed form a `data` subroutine gives
the initial values instead.
-/

import ForeignGlue.Context
import ForeignGlue.Source.Foreign

namespace ForeignGlue

open ForeignGlue.Source

/-- A generated subroutine. -/
structure Subroutine where
  name : String
  parameters : List String := []
  /-- The statements after the head. -/
  body : Draft Statement

/-- The statements of a subroutine. -/
def Subroutine.statements (subroutine : Subroutine) : Draft Statement :=
  .ok (.subroutine subroutine.name subroutine.parameters) :: subroutine.body

namespace Context

/-- Makes the variables of all groups known. The macro of fixed form stands at `indent`. -/
def useGroups (ctx : Context) (indent : Nat) : List Statement :=
  ctx.inventory.groupNames.map fun group =>
    match ctx.options.dialect with
    | .free => .use group
    | .fixed => .useMacro indent group

/-! ### Binding static variables -/

/-- The calls that hand over a static scalar. An instance of a record type is never deallocated. -/
def passScalar (ctx : Context) (slot : Nat) (v : Variable) : List Statement :=
  let index := ctx.slotLiteral slot
  match v.type with
  | .record typeName =>
    [.call 2 s!"init{typeName}py"
       [index, v.name, v.name ++ "%cobj__", ctx.options.indexLiteral 1,
        ctx.options.indexLiteral 0],
     .call 2 (ctx.foreignSymbol "setderivedtypepointers" "") [index, v.name ++ "%cobj__"]]
  | _ => [.call 2 (ctx.foreignSymbol "setscalarpointers" "") [index, v.name]]

/-- The call that hands over an array. In free form a dynamic array is bound by its own
subroutine. -/
def passArray (ctx : Context) (slot : Nat) (v : Variable) : List Statement :=
  let hand (name : String) : Statement :=
    .call 2 (ctx.foreignSymbol "setarraypointers" "") [ctx.slotLiteral slot, name]
  match v.isDynamic, ctx.options.dialect with
  | true, .free => []
  | true, .fixed => [hand ("p" ++ v.name)]
  | false, _ => [hand v.name]

/-- Hands the address of every static variable to the host. -/
def passPointers (ctx : Context) : Subroutine where
  name := ctx.foreignSymbol "passpointers" ""
  body := Draft.ofList <|
    ctx.useGroups 2 ++
    (ctx.inventory.scalars.mapIdx fun slot v =>
      if v.isDynamic then [] else ctx.passScalar slot v).flatten ++
    (ctx.inventory.arrays.mapIdx ctx.passArray).flatten ++
    [.plain "  return", .plain "end"]

/-- Puts every pointer into a known state. -/
def nullifyPointers (ctx : Context) : Subroutine where
  name := ctx.foreignSymbol "nullifypointers" ""
  body := Draft.ofList <|
    ctx.useGroups 2 ++
    ((ctx.inventory.scalars ++ ctx.inventory.arrays).filter Variable.isDynamic).map
      (fun v => .nullify v.name) ++
    [.plain "  return", .plain "end"]

/-! ### Subroutines of single variables -/

/-- A declaration of integers of the index kind. -/
def declareIndices (ctx : Context) (names : String) : Statement :=
  .plain s!"  integer({ctx.options.indexKind.toNat}):: {names}"

/-- Binds a scalar: a pointer is set to the new place, an instance takes its value. -/
def scalarSetter (ctx : Context) (v : Variable) : Subroutine where
  name := ctx.foreignSymbol "setpointer" v.name
  parameters := ["p__", "cobj__"]
  body := Draft.ofList
    [.use v.group,
     ctx.declareIndices "cobj__",
     .plain s!"  {ctx.types.foreign v.type},target::p__",
     .plain (if v.isDynamic then s!"  {v.name} => p__" else s!"  {v.name} = p__"),
     .plain "  RETURN",
     .plain "END"]

/-- Tells the instance that a scalar is bound to, and makes its host object if asked to. -/
def scalarGetter (ctx : Context) (v : Variable) : Subroutine where
  name := ctx.foreignSymbol "getpointer" v.name
  parameters := ["cobj__", "obj__", "createnew__"]
  body := Draft.ofList
    [.use v.group,
     ctx.declareIndices "cobj__,obj__,createnew__",
     .plain s!"  if (ASSOCIATED({v.name})) then",
     .plain s!"    if ({v.name}%cobj__ == 0 .and. createnew__ == 1) then",
     .call 6 s!"init{v.type.tag}py"
       [ctx.options.indexLiteral (-1), v.name, v.name ++ "%cobj__", ctx.options.indexLiteral 0,
        ctx.options.indexLiteral 0],
     .plain "    endif",
     .plain s!"    cobj__ = {v.name}%cobj__",
     .plain "  else",
     .plain "    cobj__ = 0",
     .plain "  endif",
     .plain "  RETURN",
     .plain "END"]

/-- The groups that the binder of an array needs: those of the scalars in its shape, then its
own. -/
def arrayGroups (ctx : Context) (v : Variable) : Except GenerationError (List String) := do
  let groups ← ctx.scope.groupsIn v.shape
  return (groups.filter fun group => group != v.group) ++ [v.group]

/-- Binds an array to a buffer of the given extents. -/
def arraySetter (ctx : Context) (v : Variable) : Subroutine where
  name := ctx.foreignSymbol "setpointer" v.name
  parameters := ["p__", "cobj__", "dims__"]
  body :=
    match ctx.arrayGroups v with
    | .error error => [.error error]
    | .ok groups => Draft.ofList <|
      groups.map .use ++
      [ctx.declareIndices "cobj__",
       ctx.declareIndices s!"dims__({v.rank})",
       .plain s!"  {ctx.types.foreign v.type},target::p__{foreignForm v.shape}",
       .plain s!"  {v.name} => p__",
       .plain "  return",
       .plain "end"]

/-- Tells the buffer that an array is bound to, and its shape. -/
def arrayGetter (ctx : Context) (v : Variable) : Subroutine where
  name := ctx.foreignSymbol "getpointer" v.name
  parameters := ["i__", "obj__"]
  body := Draft.ofList
    [.use v.group,
     ctx.declareIndices "i__,obj__",
     ctx.declareIndices s!"ss({v.rank})",
     .plain s!"  if (.not. associated({v.name})) return",
     .call 2 (ctx.foreignSymbol "setarraypointersobj" "") ["i__", v.name],
     .plain s!"  ss = shape({v.name})",
     .call 2 (ctx.foreignSymbol "setarraydims" "") ["i__", "ss"],
     .plain "  return",
     .plain "end"]

/-- The subroutines of a scalar: one that binds it if it is a pointer or an instance, and one that
tells the instance if it is both. -/
def scalarSubroutines (ctx : Context) (v : Variable) : List Subroutine :=
  (if v.isDynamic || v.isRecord then [ctx.scalarSetter v] else []) ++
    (if v.isDynamic && v.isRecord then [ctx.scalarGetter v] else [])

/-- The subroutines of an array. A static one has none. -/
def arraySubroutines (ctx : Context) (v : Variable) : List Subroutine :=
  if v.isDynamic then
    ctx.arraySetter v :: if v.isReassigned then [ctx.arrayGetter v] else []
  else []

/-- The subroutines of all variables: of the scalars, then of the arrays. -/
def binders (ctx : Context) : List Subroutine :=
  ctx.inventory.scalars.flatMap ctx.scalarSubroutines ++
    ctx.inventory.arrays.flatMap ctx.arraySubroutines

/-! ### Initial values in fixed form -/

/-- Gives the scalars and the static arrays their initial values. -/
def dataRoutine (ctx : Context) : Subroutine where
  name := ctx.foreignSymbol "data" ""
  body := Draft.ofList <|
    ctx.useGroups 0 ++
    [.plain "integer idata__"] ++
    (ctx.inventory.scalars ++ ctx.inventory.arrays.filter fun v => !v.isDynamic).filterMap
      (fun v => v.initializer.map (.data 0 v.name)) ++
    [.plain "idata__=0", .plain "return", .plain "end"]

/-! ### All subroutines -/

/-- The subroutines of the module. -/
def subroutines (ctx : Context) : List Subroutine :=
  [ctx.passPointers, ctx.nullifyPointers] ++
    match ctx.options.dialect with
    | .free => ctx.binders
    | .fixed => [ctx.dataRoutine]

/-- The statements of the subroutines. -/
def linkageStatements (ctx : Context) : Draft Statement :=
  ctx.subroutines.flatMap Subroutine.statements

/-- The foreign source of the subroutines. -/
def linkageDraft (ctx : Context) : Draft String :=
  layOutStatements ctx.options.dialect ctx.linkageStatements

end Context

end ForeignGlue
