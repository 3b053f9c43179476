/-
Wrappers: the C functions that the host calls.

A wrapper converts every argument to a buffer, checks the shapes once all buffers are there, sets a
recovery point for faults inside the foreign routine, calls it, and builds the result. All failures
leave by one exit that raises a host exception.
-/

import ForeignGlue.Call.Error
import ForeignGlue.Context
import ForeignGlue.Source.Host

namespace ForeignGlue

open ForeignGlue.Source
open ForeignGlue.Text

/-! ### Arguments that size others -/

namespace Routine

/-- The names in the bounds of checked arguments, in order. -/
def boundNames (routine : Routine) : List String :=
  (routine.arguments.filter Argument.isChecked).flatMap fun argument =>
    argument.bounds.flatMap fun bound =>
      Expression.names bound.low ++ Expression.names bound.high

/-- The arguments whose values size others, in order of their first use. -/
def sizingArguments (routine : Routine) : List Argument :=
  distinctBy Argument.position
    ((routine.boundNames.filterMap routine.find?).filter Argument.isSizing)

/-- The number of character arguments before a position. -/
def stringsBefore (routine : Routine) (position : Nat) : Nat :=
  ((routine.arguments.take position).filter fun argument => argument.type.isCharacter).length

end Routine

/-- The local variable that holds the value of a sizing argument. -/
def sizingLocal (name : String) : String :=
  lower name ++ "__"

/-- The names that a routine's sizing arguments bind, in any case. -/
def Routine.binding (routine : Routine) : Binding := fun name =>
  if routine.sizingArguments.any fun argument => sameName argument.name name then
    some (sizingLocal name)
  else none

/-! ### Conversion of arguments -/

/-- How an argument is converted. `index` is its place in the argument list. -/
inductive Conversion where
  /-- A record is checked for its type. -/
  | record (index : Nat) (typeName : String) (mismatch : CallError)
  /-- Any other argument becomes a buffer; one of characters fills a string descriptor. -/
  | buffer (index : Nat) (element : String) (convention : Convention)
      (mismatch failure : CallError) (descriptor : Option Nat)
  deriving DecidableEq, Repr

/-- Leaves the wrapper with an error, and closes the condition that was checked. -/
def refuse (indent : String) (error : CallError) : List String :=
  [s!"{indent}sprintf(e,{quoted error.message});", indent ++ "goto err;\x7d"]

/-- The expression that makes a buffer of an argument. -/
def bufferText (index : Nat) (element : String) : Convention → String
  | .foreign => s!"FARRAY_FROMOBJECT(pyobj[{index}], {element})"
  | .plain => s!"(PyArrayObject *)PyArray_ContiguousFromObject(pyobj[{index}], {element},0,0)"

/-- The lines that convert an argument. -/
def Conversion.lines : Conversion → List String
  | .record index typeName mismatch =>
    ["  argno++;",
     "  \x7b",
     s!"  PyObject *t = PyObject_Type(pyobj[{index}]);",
     "  int isforthon = strcmp(((PyTypeObject *)t)->tp_name,\"Forthon\") == 0;",
     "  Py_XDECREF(t);",
     s!"  if (!isforthon || strcmp(((ForthonObject *)pyobj[{index}])->typename," ++
       s!"\"{typeName}\") != 0) \x7b"] ++
    refuse "    " mismatch ++ ["  \x7d"]
  | .buffer index element convention mismatch failure descriptor =>
    ["  argno++;",
     s!"  if (!Forthon_checksubroutineargtype(pyobj[{index}],{element})) \x7b"] ++
    refuse "    " mismatch ++
    [s!"  ax[{index}] = {bufferText index element convention};",
     s!"  if (ax[{index}] == NULL) \x7b"] ++
    refuse "    " failure ++
    match descriptor with
    | some number =>
      [s!"  FSETSTRING(fstr[{number}],PyArray_BYTES(ax[{index}]),PyArray_SIZE(ax[{index}]));"]
    | none => []

/-! ### Checks of shapes -/

/-- A local variable with the value of a sizing argument. -/
structure SizingRead where
  type : String
  name : String
  /-- The position of the argument whose buffer is read. -/
  position : Nat
  deriving DecidableEq, Repr

/-- The line that declares the variable. -/
def SizingRead.line (read : SizingRead) : String :=
  s!"  {read.type} {read.name} = *({read.type} *)(PyArray_BYTES(ax[{read.position}]));"

/-- The declared extent of a dimension, counted from zero. -/
structure KnownExtent where
  dimension : Nat
  extent : Extent
  deriving DecidableEq

/-- How the shape of an argument is checked. -/
structure ShapeCheck where
  /-- The place of the argument in the argument list. -/
  index : Nat
  rank : Nat
  /-- The extents of the dimensions that are not left open. -/
  extents : Except GenerationError (List KnownExtent)

/-- The lines that check the number of dimensions. A bare value passes for one dimension. -/
def ShapeCheck.rankLines (check : ShapeCheck) (routine : Routine) : List String :=
  let dimensions := s!"PyArray_NDIM(ax[{check.index}])"
  [s!"  argno = {check.index + 1};",
   if check.rank = 1 then s!"  if (!({dimensions} == 1 || {dimensions} == 0)) \x7b"
   else s!"  if (!({dimensions} == {check.rank})) \x7b"] ++
  refuse "    " { routine := routine.name, argument := check.index + 1, fault := .wrongRank }

/-- The lines that check the extent of a dimension. -/
def ShapeCheck.extentLines (check : ShapeCheck) (routine : Routine) (scope : Scope)
    (known : KnownExtent) : List String :=
  let actual := s!"(int)(PyArray_DIMS(ax[{check.index}])[{known.dimension}])"
  [s!"    _n = (int){scope.extentText known.extent};",
   if check.rank = 1 then
     s!"    if (!(PyArray_NDIM(ax[{check.index}]) == 0 || _n == {actual})) \x7b"
   else s!"    if (!(_n == {actual})) \x7b"] ++
  refuse "      "
    { routine := routine.name, argument := check.index + 1,
      fault := .wrongDimension (known.dimension + 1) }

/-- The lines that check the extents, unless the array is empty. -/
def ShapeCheck.guardedLines (check : ShapeCheck) (routine : Routine) (scope : Scope)
    (extents : List KnownExtent) : List String :=
  if extents.isEmpty then []
  else
    [s!"  if ({scope.nonzeroGuard (extents.map KnownExtent.extent)}) \x7b"] ++
    extents.flatMap (check.extentLines routine scope) ++ ["  \x7d"]

/-- The lines that check the shape of an argument. -/
def ShapeCheck.lines (check : ShapeCheck) (routine : Routine) (scope : Scope) : Draft String :=
  Draft.ofList (check.rankLines routine) ++
    match check.extents with
    | .error error => [.error error]
    | .ok extents => Draft.ofList (check.guardedLines routine scope extents)

/-! ### The call -/

/-- What is passed to the foreign routine. -/
inductive CallArgument where
  /-- The foreign part of a record. -/
  | record (index : Nat)
  /-- A string descriptor, by its number. -/
  | descriptor (number : Nat)
  /-- The address of a buffer. -/
  | buffer (type : String) (index : Nat)
  /-- The length of a string. -/
  | length (index : Nat)
  deriving DecidableEq, Repr

/-- The text of an argument. -/
def CallArgument.text : CallArgument → String
  | .record index => s!"((ForthonObject *)(pyobj[{index}]))->fobj"
  | .descriptor number => s!"fstr[{number}]"
  | .buffer type index => s!"({type} *)(PyArray_BYTES(ax[{index}]))"
  | .length index => s!"PyArray_SIZE(ax[{index}])"

namespace Context

/-- How the arguments of a routine are converted. -/
def conversions (ctx : Context) (routine : Routine) : List Conversion :=
  routine.arguments.mapIdx fun index argument =>
    let refusal (fault : CallFault) : CallError :=
      { routine := routine.name, argument := index + 1, fault }
    match argument.type with
    | .record typeName => .record index typeName (refusal .wrongType)
    | type =>
      .buffer index (ctx.types.element type) routine.convention (refusal .wrongType)
        (refusal .conversion)
        (if type.isCharacter then some (routine.stringsBefore index) else none)

/-- The local variables with the values of sizing arguments. -/
def sizingReads (ctx : Context) (routine : Routine) : List SizingRead :=
  routine.sizingArguments.map fun argument =>
    { type := ctx.types.host argument.type
      name := sizingLocal argument.name
      position := argument.position }

/-- The declared extents of an argument. -/
def knownExtents (ctx : Context) (routine : Routine) (argument : Argument) :
    Except GenerationError (List KnownExtent) :=
  let numbered := argument.bounds.mapIdx fun dimension bound => (dimension, bound)
  let known := numbered.filter fun (_, bound) => !bound.isAssumed
  collect <| known.map fun (dimension, bound) => do
    let extent ← ctx.scope.extent routine.binding bound
    return { dimension, extent }

/-- How the shapes of a routine's arguments are checked. -/
def shapeChecks (ctx : Context) (routine : Routine) : List ShapeCheck :=
  let numbered := routine.arguments.mapIdx fun index argument => (index, argument)
  let checked := numbered.filter fun (_, argument) => argument.isChecked
  checked.map fun (index, argument) =>
    { index, rank := argument.rank, extents := ctx.knownExtents routine argument }

/-- The lines that check the shapes of a routine's arguments. -/
def shapeCheckLines (ctx : Context) (routine : Routine) : Draft String :=
  let checks := ctx.shapeChecks routine
  if checks.isEmpty then []
  else
    Draft.ofList (["  \x7b", "  int _n;"] ++ (ctx.sizingReads routine).map SizingRead.line) ++
      checks.flatMap (fun check => check.lines routine ctx.scope) ++ [.ok "  \x7d"]

/-- What is passed to a routine. -/
def callArguments (ctx : Context) (routine : Routine) : List CallArgument :=
  let passed := routine.arguments.mapIdx fun index argument =>
    if argument.type.isRecord then CallArgument.record index
    else if argument.type.isCharacter then .descriptor (routine.stringsBefore index)
    else .buffer (ctx.types.host argument.type) index
  let numbered := routine.arguments.mapIdx fun index argument => (index, argument)
  let strings := numbered.filter fun (_, argument) => argument.type.isCharacter
  passed ++
    if ctx.options.stringLengthsAtEnd then strings.map fun (index, _) => .length index else []

/-- The line that calls a routine. -/
def callLine (ctx : Context) (routine : Routine) : String :=
  (if routine.result.isSome then "  r = " else "  ") ++ ctx.routineSymbol routine ++ "(" ++
    join "," ((ctx.callArguments routine).map CallArgument.text) ++ ");"

/-! ### The wrapper -/

/-- The slot of the scalar that a routine's time is added to, if routines are timed. -/
def timerSlot? (ctx : Context) (routine : Routine) : Option Nat :=
  if ctx.options.timeRoutines then ctx.inventory.slot? routine.timerName else none

/-- Lines that are there if a condition holds. -/
def linesIf (condition : Bool) (lines : List String) : List String :=
  if condition then lines else []

theorem forall_mem_linesIf {property : String → Prop} {condition : Bool} {lines : List String}
    (each : ∀ line ∈ lines, property line) : ∀ line ∈ linesIf condition lines, property line := by
  cases condition with
  | false => simp [linesIf]
  | true => exact each

/-- The declarations of a wrapper, and the parsing of its argument tuple. -/
def openingLines (ctx : Context) (routine : Routine) : List String :=
  let count := routine.arguments.length
  let timed := (ctx.timerSlot? routine).isSome
  linesIf (count != 0)
    [s!"  PyObject * pyobj[{count}];", s!"  PyArrayObject * ax[{count}];", "  int i;"] ++
  ["  int argno=0;", "  char e[256];"] ++
  linesIf timed ["  double time1,time2;"] ++
  linesIf (routine.stringCount != 0) [s!"  FSTRING fstr[{routine.stringCount}];"] ++
  (match routine.result with
   | some type => ["  PyObject * ret_val;", s!"  {ctx.types.host type} r;"]
   | none => []) ++
  linesIf timed ["  time1 = cputime();"] ++
  linesIf (count != 0) [s!"  for (i=0;i<{count};i++) ax[i] = NULL;"] ++
  ["  if (!PyArg_ParseTuple(args, \"" ++ String.ofList (List.replicate count 'O') ++ "\"" ++
     String.join ((List.range count).map fun index => s!",&pyobj[{index}]") ++ ")) return NULL;"]

/-- The recovery point. -/
def recoveryLines (routine : Routine) : List String :=
  ["  if (setjmp(stackenvironment)) \x7b",
   s!"    sprintf(e,\"Argument %d in {escape routine.name} has the wrong type\",argno);",
   "    goto err;\x7d"]

/-- What follows the call: temporaries are copied back, and the result is built. A complex result is
passed by its address. -/
def closingLines (ctx : Context) (routine : Routine) : List String :=
  let count := routine.arguments.length
  linesIf (count != 0) [s!"  Forthon_restoresubroutineargs({count},pyobj,ax);"] ++
  (match ctx.timerSlot? routine with
   | some slot =>
     ["  time2 = cputime();",
      s!"  *(double *){ctx.scalarTable}[{slot}].data += (time2-time1);"]
   | none => []) ++
  (match routine.result with
   | none => ["  returnnone;"]
   | some type =>
     let format := ctx.types.result type
     let value := if format == "D" then "&r" else "r"
     [s!"  ret_val = Py_BuildValue(\"{format}\", {value});", "  return ret_val;"])

/-- The exit of all failures. -/
def exitLines (routine : Routine) : List String :=
  let count := routine.arguments.length
  ["err:", "  if (!PyErr_Occurred())", "    PyErr_SetString(ErrorObject,e);"] ++
  linesIf (count != 0)
    [s!"  for (i=0;i<{count};i++)", "    if (ax[i] != NULL) \x7bPy_XDECREF(ax[i]);\x7d"] ++
  ["  return NULL;"]

/-- The lines of a wrapper's body. -/
def wrapperBody (ctx : Context) (routine : Routine) : Draft String :=
  Draft.ofList (ctx.openingLines routine ++ (ctx.conversions routine).flatMap Conversion.lines) ++
    ctx.shapeCheckLines routine ++
    Draft.ofList (recoveryLines routine ++ [ctx.callLine routine] ++ ctx.closingLines routine ++
      exitLines routine)

/-- The documentation and the wrapper of a routine. -/
def wrapperItems (ctx : Context) (routine : Routine) : List Item :=
  let name := ctx.wrapperName routine.name
  [.definition
    { lead := "static char ", name := "doc_" ++ name
      tail := s!"[] = {quoted (routine.name ++ routine.signature ++ routine.comment)};" },
   .definition
    { lead := "static PyObject *\n", name, tail := "(PyObject *self, PyObject *args)"
      body := braced (ctx.wrapperBody routine) }]

/-- The wrappers of all routines. -/
def wrappersItems (ctx : Context) : List Item :=
  ctx.inventory.routines.flatMap ctx.wrapperItems ++ [.line ""]

/-! ### The method table -/

/-- The row of a routine. -/
def routineRow (ctx : Context) (routine : Routine) : String :=
  let name := ctx.wrapperName routine.name
  s!"\x7b\"{routine.name}\",(PyCFunction){name},METH_VARARGS,doc_{name}\x7d,"

/-- The row of the constructor of a record type. -/
def constructorRow (ctx : Context) (record : RecordType) : String :=
  s!"\x7b\"{record.name}\",(PyCFunction){ctx.wrapperName record.name}New,METH_VARARGS," ++
    s!"\"Creates a new instance of fortran derived type {record.name}\"\x7d,"

/-- The table of everything that the host can call. -/
def methodTableItems (ctx : Context) : List Item :=
  [.definition
    { lead := "static struct PyMethodDef ", name := ctx.module ++ "_methods", tail := "[] = \x7b"
      body := Draft.ofList <|
        ctx.inventory.routines.map ctx.routineRow ++ ctx.inventory.records.map ctx.constructorRow ++
        ["\x7bNULL,NULL\x7d\x7d;"] },
   .line ""]

end Context

end ForeignGlue
