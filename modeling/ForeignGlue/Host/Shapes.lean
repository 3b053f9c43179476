/-
Functions that set the shapes of arrays.

The shapes of static arrays are set once. Those of dynamic arrays are set for one group or for all,
and for one array or for all of a group: each group with dynamic arrays has a function of its own,
and a last function calls those whose slots can be meant. Host axes are in the reverse of the
declared order, and the extent of an open dimension is left to the foreign side.
-/

import ForeignGlue.Context
import ForeignGlue.Source.Host

namespace ForeignGlue

open ForeignGlue.Source

/-- Sets one axis of an array to an extent. -/
structure ShapeStore where
  slot : Nat
  /-- The host axis. -/
  axis : Nat
  extent : Extent
  deriving DecidableEq

/-- An array with its slot. -/
structure NumberedArray where
  slot : Nat
  array : Variable
  deriving DecidableEq

namespace Context

/-- The text that sets an axis. -/
def storeText (ctx : Context) (store : ShapeStore) : String :=
  s!"{ctx.arrayTable}[{store.slot}].dimensions[{store.axis}] = " ++
    s!"(npy_intp){ctx.scope.extentText store.extent};"

/-- What sets the axes of an array whose extents are declared. -/
def shapeStores (ctx : Context) (slot : Nat) (array : Variable) :
    Except GenerationError (List ShapeStore) :=
  let numbered := array.bounds.mapIdx fun dimension bound => (dimension, bound)
  let known := numbered.filter fun (_, bound) => !bound.isAssumed
  collect <| known.map fun (dimension, bound) => do
    let extent ← ctx.scope.extent Binding.none bound
    return { slot, axis := array.rank - 1 - dimension, extent }

/-- The lines that set the axes of an array, all or none of them. -/
def storeLines (ctx : Context) (indent : String) (slot : Nat) (array : Variable) : Draft String :=
  match ctx.shapeStores slot array with
  | .error error => [.error error]
  | .ok stores => Draft.ofList (stores.map fun store => indent ++ ctx.storeText store)

/-- The arrays with their slots. -/
def numberedArrays (ctx : Context) : List NumberedArray :=
  ctx.inventory.arrays.mapIdx NumberedArray.mk

/-- Sets the shapes of the static arrays. -/
def staticShapeItems (ctx : Context) : List Item :=
  let statics := ctx.numberedArrays.filter fun numbered => !numbered.array.isDynamic
  [.definition
    { lead := "void ", name := ctx.module ++ "setstaticdims", tail := "(ForthonObject *self)"
      body := braced (statics.flatMap fun numbered =>
        ctx.storeLines "  " numbered.slot numbered.array) },
   .line ""]

/-! ### Dynamic arrays -/

/-- The dynamic arrays with their slots. -/
def dynamicArrays (ctx : Context) : List NumberedArray :=
  ctx.numberedArrays.filter fun numbered => numbered.array.isDynamic

/-- The groups that have dynamic arrays, each where it first appears. -/
def dynamicGroups (ctx : Context) : List String :=
  distinct (ctx.dynamicArrays.map fun numbered => numbered.array.group)

/-- The dynamic arrays of a group, in table order. -/
def dynamicArraysIn (ctx : Context) (group : String) : List NumberedArray :=
  ctx.dynamicArrays.filter fun numbered => numbered.array.group == group

/-- The name of the function that sets the shapes of a group. -/
def groupShapeSetter (ctx : Context) (group : String) : String :=
  ctx.module ++ "setdims" ++ group

/-- The lines for one dynamic array of a group. -/
def memberShapeLines (ctx : Context) (member : NumberedArray) : Draft String :=
  .ok s!"  if (i == -1 || i == {member.slot}) \x7b" ::
    ctx.storeLines "    " member.slot member.array ++ [.ok "  \x7d"]

/-- Sets the shapes of the dynamic arrays of a group. -/
def groupShapeItem (ctx : Context) (group : String) : Item :=
  .definition
    { lead := "static void ", name := ctx.groupShapeSetter group, tail := "(char *name,long i)"
      body := braced <|
        .ok s!"  if (strcmp(name,\"{group}\") == 0 || strcmp(name,\"*\") == 0) \x7b" ::
          (ctx.dynamicArraysIn group).flatMap ctx.memberShapeLines ++ [.ok "  \x7d"] }

/-- Calls the function of a group if the slot can be one of its. -/
def dispatchLine (ctx : Context) (group : String) : Option String := do
  let members := ctx.dynamicArraysIn group
  let first ← members.head?
  let last ← members.getLast?
  some (s!"  if (i == -1 || ({first.slot} <= i && i <= {last.slot})) " ++
    s!"{ctx.groupShapeSetter group}(name,i);")

/-- Sets the shapes of dynamic arrays: the functions of the groups, then the one that calls them. -/
def dynamicShapeItems (ctx : Context) : List Item :=
  ctx.dynamicGroups.map ctx.groupShapeItem ++
  [.definition
    { lead := "void ", name := ctx.module ++ "setdims"
      tail := "(char *name,ForthonObject *obj,long i)"
      body := braced (Draft.ofList (ctx.dynamicGroups.filterMap ctx.dispatchLine)) },
   .line ""]

end Context

end ForeignGlue
