/-
The descriptor tables as C data.
-/

import ForeignGlue.Context
import ForeignGlue.Source.Host

namespace ForeignGlue

open ForeignGlue.Source
open ForeignGlue.Text

/-- A name in quotes, as it is. -/
def rawQuoted (name : String) : String :=
  "\"" ++ name ++ "\""

/-- The initializer of a function pointer. -/
def functionPointer : Option String → String
  | some name => "*" ++ name
  | none => "NULL"

/-- A truth value in C. -/
def cTruth (value : Bool) : String :=
  if value then "1" else "0"

/-- A row of a table. -/
def tableRow (cells : List String) : String :=
  "\x7b" ++ join "," cells ++ "\x7d"

/-- The row of a scalar. -/
def ScalarDescriptor.row (scalar : ScalarDescriptor) : String :=
  tableRow
    [scalar.element, rawQuoted scalar.typeTag, rawQuoted scalar.name, "NULL",
     rawQuoted scalar.group, quoted scalar.attributes, quoted scalar.comment,
     cTruth scalar.dynamic, functionPointer scalar.setter, functionPointer scalar.getter]

/-- The row of an array. -/
def ArrayDescriptor.row (array : ArrayDescriptor) : String :=
  tableRow
    [array.element, cTruth array.dynamic, toString array.rank, "NULL", rawQuoted array.name,
     "\x7bNULL\x7d", functionPointer array.setter, functionPointer array.getter,
     array.initialValue, "NULL", rawQuoted array.group, quoted array.attributes,
     quoted array.comment, quoted array.shapeText]

/-- A table and its size. An empty table is a null pointer. -/
def tableItems (storage type size table : String) (rows : List String) : List Item :=
  [.definition { lead := "int ", name := size, tail := s!" = {rows.length};" },
   .definition
     (if rows.isEmpty then { lead := s!"{storage}{type} *", name := table, tail := "=NULL;" }
      else
        { lead := s!"{storage}{type} ", name := table, tail := s!"[{rows.length}]=\x7b"
          body := Draft.ofList [join ",\n" rows, "\x7d;"] })]

namespace Context

/-- The declarations of the scalar tables of external modules. -/
def externalTableItems (ctx : Context) : List Item :=
  ctx.externals.map fun index => .line s!"extern Fortranscalar {index.tableName}[];"

/-- The scalar table, after those of external modules. -/
def scalarTableItems (ctx : Context) : List Item :=
  ctx.externalTableItems ++
    tableItems "" "Fortranscalar" (ctx.module ++ "nscalars") ctx.scalarTable
      (ctx.package.scalars.map ScalarDescriptor.row)

/-- The array table. -/
def arrayTableItems (ctx : Context) : List Item :=
  tableItems "static " "Fortranarray" (ctx.module ++ "narrays") ctx.arrayTable
    (ctx.package.arrays.map ArrayDescriptor.row)

end Context

end ForeignGlue
