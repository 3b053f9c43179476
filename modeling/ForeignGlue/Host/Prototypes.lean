/-
The head of the host file: includes, and prototypes of everything that is defined elsewhere.
-/

import ForeignGlue.Context
import ForeignGlue.Source.Host

namespace ForeignGlue

open ForeignGlue.Source

/-- A parameter of a foreign routine as C declares it. -/
inductive Parameter where
  /-- A string that carries its length. -/
  | descriptor (type name : String)
  /-- The address of a value. -/
  | pointer (type name : String)
  /-- The length of a string, passed after all other arguments. -/
  | length (number : Nat)
  deriving DecidableEq, Repr

/-- The text of a parameter. -/
def Parameter.text : Parameter → String
  | .descriptor type name => type ++ " " ++ name
  | .pointer type name => type ++ " *" ++ name
  | .length number => s!"int sl{number}"

namespace Context

/-- The parameter of an argument. -/
def parameter (ctx : Context) (argument : Argument) : Parameter :=
  let type := ctx.types.host argument.type
  if argument.type.isCharacter then .descriptor type argument.name else .pointer type argument.name

/-- The parameters of a routine. -/
def parameters (ctx : Context) (routine : Routine) : List Parameter :=
  routine.arguments.map ctx.parameter ++
    if ctx.options.stringLengthsAtEnd then (List.range routine.stringCount).map .length else []

/-- The prototype of a routine. -/
def routinePrototype (ctx : Context) (routine : Routine) : Prototype where
  result := (match routine.result with
    | some type => ctx.types.host type
    | none => "void") ++ " "
  name := ctx.routineSymbol routine
  parameters :=
    let parameters := ctx.parameters routine
    if parameters.isEmpty then ["void"] else parameters.map Parameter.text

/-- The prototype of a generated subroutine without parameters. -/
def subroutinePrototype (ctx : Context) (role : String) : Prototype where
  result := "void "
  name := ctx.linkSymbol role ""
  parameters := ["void"]

/-- The prototype of the constructor of a record type. -/
def constructorPrototype (ctx : Context) (record : RecordType) : Prototype where
  result := "PyObject *"
  name := ctx.wrapperName record.name ++ "New"
  parameters := ["PyObject *self, PyObject *args"]

/-- The head of the file: comment, includes, and prototypes of routines and constructors. -/
def prototypeItems (ctx : Context) : List Item :=
  [.line s!"/* {ctx.module}pymodule.c: generated by fstubgen, do not edit.",
   .line " * The descriptor tables and wrappers in this file are not reentrant:",
   .line " * calling two wrappers that share descriptor state concurrently is undefined. */",
   .line "#include \"Forthon.h\"",
   .line "#include <setjmp.h>",
   .definition { lead := "ForthonObject *", name := ctx.module ++ "Object", tail := ";" },
   .line "extern jmp_buf stackenvironment;",
   .prototype (ctx.subroutinePrototype "passpointers"),
   .prototype (ctx.subroutinePrototype "nullifypointers")] ++
  (if ctx.isFree then [] else [.prototype (ctx.subroutinePrototype "data")]) ++
  ctx.inventory.routines.map (fun routine => .prototype (ctx.routinePrototype routine)) ++
  ctx.inventory.records.map (fun record => .prototype (ctx.constructorPrototype record)) ++
  [.line ""]

/-- The prototypes of the subroutines of a scalar. -/
def scalarPrototypes (scalar : ScalarDescriptor) : List Prototype :=
  (scalar.setter.map fun name =>
    { result := "void ", name, parameters := ["char *p", "long *cobj__"] }).toList ++
  (scalar.getter.map fun name =>
    { result := "void ", name,
      parameters := ["ForthonObject **cobj__", "long *obj", "long *createnew"] }).toList

/-- The prototypes of the subroutines of an array. -/
def arrayPrototypes (array : ArrayDescriptor) : List Prototype :=
  (array.setter.map fun name =>
    { result := "void ", name,
      parameters := ["char *p", "long *cobj__", "npy_intp *dims__"] }).toList ++
  (array.getter.map fun name =>
    { result := "void ", name, parameters := ["long *i", "long *cobj__"] }).toList

/-- The prototypes of the subroutines of single variables that the tables refer to. -/
def binderPrototypeItems (ctx : Context) : List Item :=
  (ctx.package.scalars.flatMap scalarPrototypes ++
    ctx.package.arrays.flatMap arrayPrototypes).map .prototype

end Context

end ForeignGlue
