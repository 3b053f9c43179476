/-
What happens when the host loads the module: the package object is made and filled from the tables,
the foreign side hands over its addresses, and the package is registered.
-/

import ForeignGlue.Context
import ForeignGlue.Source.Host

namespace ForeignGlue

open ForeignGlue.Source

/-- A step of the function that the host calls when it loads the module. -/
inductive StartStep where
  | line (text : String)
  /-- A call of a foreign subroutine that has no parameters. -/
  | call (callee : String)
  deriving DecidableEq, Repr

/-- The line of a step. -/
def StartStep.text : StartStep → String
  | .line text => text
  | .call callee => "  " ++ callee ++ "();"

namespace Context

/-- The description of the module. -/
def moduleDefinition (ctx : Context) : Definition where
  lead := "static struct PyModuleDef "
  name := ctx.module ++ "moduledef"
  tail := " = \x7b"
  body := Draft.ofList
    ["  PyModuleDef_HEAD_INIT,", s!"  \"{ctx.module}py\",", "  NULL,", "  -1,",
     s!"  {ctx.module}_methods", "\x7d;"]

/-- Makes the module. -/
def creationLines (ctx : Context) : List String :=
  ["  PyObject *m;"] ++
  (if ctx.options.toolchain.needsRuntimeStart then ["  f90_init(0,NULL);"] else []) ++
  ["  if (PyType_Ready(&ForthonType) < 0)",
   "    return NULL;",
   s!"  m = PyModule_Create(&{ctx.module}moduledef);",
   "  if (m == NULL)",
   "    return NULL;"]

/-- The fields of the package object, with their values. -/
def packageFields (ctx : Context) : List (String × String) :=
  let m := ctx.module
  [("name", s!"\"{m}\""),
   ("typename", s!"\"{m}\""),
   ("nscalars", m ++ "nscalars"),
   ("fscalars", ctx.scalarTable),
   ("narrays", m ++ "narrays"),
   ("farrays", ctx.arrayTable),
   ("setdims", s!"*{m}setdims"),
   ("setstaticdims", s!"*{m}setstaticdims"),
   ("fmethods", m ++ "_methods"),
   ("__module__", s!"Py_BuildValue(\"s\",\"{m}py\")"),
   ("fobj", "NULL"),
   ("fobjdeallocate", "NULL"),
   ("nullifycobj", "NULL"),
   ("allocated", "0"),
   ("garbagecollected", "0")]

/-- Makes the package object and adds it to the module. -/
def packageLines (ctx : Context) : List String :=
  let m := ctx.module
  let object := m ++ "Object"
  [s!"  {object}=(ForthonObject *)PyObject_GC_New(ForthonObject, &ForthonType);"] ++
  ctx.packageFields.map (fun (field, value) => s!"  {object}->{field} = {value};") ++
  [s!"  PyModule_AddObject(m,\"{m}\",(PyObject *){object});",
   s!"  ErrorObject = PyErr_NewException(\"{m}py.error\",NULL,NULL);",
   s!"  PyModule_AddObject(m,\"{m}error\", ErrorObject);",
   "  PyModule_AddObject(m,\"fcompname\",PyUnicode_FromString(\"" ++
     ctx.options.toolchain.name ++ "\"));",
   "  if (PyErr_Occurred()) \x7b",
   "    PyErr_Print();",
   s!"    Py_FatalError(\"can not initialize module {m}\");",
   "    \x7d"]

/-- Has the foreign side hand over its addresses. -/
def bindingSteps (ctx : Context) : List StartStep :=
  let object := ctx.module ++ "Object"
  [.line "  import_array();",
   .line s!"  Forthon_BuildDicts({object});",
   .line s!"  ForthonPackage_allotdims({object});",
   .call (ctx.linkSymbol "passpointers" ""),
   .call (ctx.linkSymbol "nullifypointers" ""),
   .line s!"  ForthonPackage_staticarrays({object});"] ++
  (if ctx.isFree then [] else [.call (ctx.linkSymbol "data" "")]) ++
  (if ctx.options.initialAllocation then
    [.line "  \x7b",
     .line "  PyObject *s;",
     .line "  s = Py_BuildValue(\"(s)\",\"*\");",
     .line s!"  ForthonPackage_gallot((PyObject *){object},s);",
     .line "  Py_XDECREF(s);",
     .line "  \x7d"]
   else [])

/-- Registers the package. -/
def registrationLines (ctx : Context) : List String :=
  let m := ctx.module
  ["  \x7b",
   "  PyObject *fm, *d, *f, *r;",
   "  r = NULL;",
   "  fm = PyImport_ImportModule(\"Forthon\");",
   "  if (fm != NULL) \x7b",
   "    d = PyModule_GetDict(fm);",
   "    if (d != NULL) \x7b",
   "      f = PyDict_GetItemString(d,\"registerpackage\");",
   "      if (f != NULL) \x7b",
   s!"        r = PyObject_CallFunction(f,\"Os\",(PyObject *){m}Object,\"{m}\");",
   "  \x7d\x7d\x7d",
   "  if (NULL == r) \x7b",
   "    if (PyErr_Occurred()) PyErr_Print();",
   "    Py_FatalError(\"unable to find a compatible Forthon module in which to register module " ++
     m ++ "\");",
   "  \x7d",
   "  Py_XDECREF(fm);",
   "  Py_XDECREF(r);",
   "  \x7d"]

/-- The function that the host calls when it loads the module. -/
def initDefinition (ctx : Context) : Definition where
  lead := "PyMODINIT_FUNC\n"
  name := s!"PyInit_{ctx.module}py"
  tail := "(void)"
  body := braced <| Draft.ofList <|
    ctx.creationLines ++ ctx.packageLines ++ ctx.bindingSteps.map StartStep.text ++
    ctx.registrationLines ++ ["  return m;"]

/-- The end of the host file. -/
def moduleInitItems (ctx : Context) : List Item :=
  [.definition ctx.moduleDefinition, .line "", .definition ctx.initDefinition]

end Context

end ForeignGlue
