/-
Descriptor tables.

A module has a table of scalars and a table of arrays. They are laid out before anything is
generated; at run time the foreign side puts addresses and shapes into them. Shapes are kept in host
axis order, the reverse of the foreign one. An operation gives the tables as it leaves them, and whether
it was done.
-/

import ForeignGlue.Text.Basic

namespace ForeignGlue

open ForeignGlue.Text

/-- An address on the foreign side. It is only kept and handed back. -/
abbrev Address := UInt64

/-- Why an address or a shape cannot be put into a table. -/
inductive BindError where
  | scalarOutOfRange (slot size : Nat)
  | arrayOutOfRange (slot size : Nat)
  | rankMismatch (name : String) (rank given : Nat)
  deriving DecidableEq, Repr

/-- What an error says. -/
def BindError.message : BindError → String
  | .scalarOutOfRange slot size => s!"scalar index {slot} out of range (table has {size})"
  | .arrayOutOfRange slot size => s!"array index {slot} out of range (table has {size})"
  | .rankMismatch name rank given =>
    s!"array {name} has rank {rank}, got a shape of length {given}"

/-- An entry of a scalar table. -/
structure ScalarDescriptor where
  /-- The element code of the host. -/
  element : String := ""
  /-- The tag of the type. -/
  typeTag : String := ""
  name : String
  group : String := ""
  attributes : String := ""
  comment : String := ""
  dynamic : Bool := false
  /-- The foreign subroutine that binds the scalar to another place. -/
  setter : Option String := none
  /-- The foreign subroutine that tells the present instance. -/
  getter : Option String := none
  address : Option Address := none
  deriving DecidableEq, Repr

/-- An entry of an array table. -/
structure ArrayDescriptor where
  /-- The element code of the host. -/
  element : String := ""
  name : String
  group : String := ""
  attributes : String := ""
  comment : String := ""
  /-- The shape text as it is declared. -/
  shapeText : String := ""
  dynamic : Bool := false
  rank : Nat
  /-- The extents in host axis order, empty before they are known. -/
  extents : List Int := []
  /-- The foreign subroutine that binds the array to a new buffer. -/
  setter : Option String := none
  /-- The foreign subroutine that tells the present buffer and its shape. -/
  getter : Option String := none
  /-- What a new buffer is filled with. -/
  initialValue : String := ""
  address : Option Address := none
  deriving DecidableEq, Repr

namespace ArrayDescriptor

/-- The array bound to a buffer. -/
def bind (array : ArrayDescriptor) (address : Address) : ArrayDescriptor :=
  { array with address := some address }

/-- The array after it is given a shape in foreign axis order, and whether it took the shape. -/
def syncShape (array : ArrayDescriptor) (foreign : List Int) :
    ArrayDescriptor × Except BindError Unit :=
  if foreign.length = array.rank then ({ array with extents := foreign.reverse }, .ok ())
  else (array, .error (.rankMismatch array.name array.rank foreign.length))

/-- The number of elements, zero if the shape is not known. -/
def elementCount (array : ArrayDescriptor) : Int :=
  if array.extents.length = array.rank then array.extents.foldl (· * ·) 1 else 0

end ArrayDescriptor

/-- The descriptor tables of a module. -/
structure Package where
  module : String
  scalars : List ScalarDescriptor := []
  arrays : List ArrayDescriptor := []
  deriving DecidableEq, Repr

namespace Package

/-- The C name of the scalar table. -/
def scalarTable (package : Package) : String :=
  package.module ++ "_fscalars"

/-- The C name of the array table. -/
def arrayTable (package : Package) : String :=
  package.module ++ "_farrays"

/-- One more scalar, and its slot. -/
def pushScalar (package : Package) (scalar : ScalarDescriptor) : Package × Nat :=
  ({ package with scalars := package.scalars ++ [scalar] }, package.scalars.length)

/-- One more array, and its slot. -/
def pushArray (package : Package) (array : ArrayDescriptor) : Package × Nat :=
  ({ package with arrays := package.arrays ++ [array] }, package.arrays.length)

/-- The slot of the first scalar of a name, in any case. -/
def scalarSlot? (package : Package) (name : String) : Option Nat :=
  package.scalars.findIdx? fun scalar => sameName scalar.name name

/-- The slot of the first array of a name, in any case. -/
def arraySlot? (package : Package) (name : String) : Option Nat :=
  package.arrays.findIdx? fun array => sameName array.name name

/-- The tables with another array in a slot. -/
def setArray (package : Package) (slot : Nat) (array : ArrayDescriptor) : Package :=
  { package with arrays := package.arrays.set slot array }

/-- Changes the array in a slot, through a handle to it. There is no handle to an array that is not
there. -/
def throughHandle {α : Type} (package : Package) (slot : Nat)
    (change : ArrayDescriptor → ArrayDescriptor × α) : Package × Option α :=
  match package.arrays[slot]? with
  | none => (package, none)
  | some array =>
    let (changed, result) := change array
    (package.setArray slot changed, some result)

/-- Puts the address of a scalar into its slot. -/
def bindScalar (package : Package) (slot : Nat) (address : Address) :
    Package × Except BindError Unit :=
  match package.scalars[slot]? with
  | none => (package, .error (.scalarOutOfRange slot package.scalars.length))
  | some scalar =>
    ({ package with scalars := package.scalars.set slot { scalar with address := some address } },
      .ok ())

/-- Puts the address of a record instance into its slot. The foreign side tells where the address
is kept, and `kept` is what it reads there. -/
def bindRecord (package : Package) (slot : Nat) (kept : Address) :
    Package × Except BindError Unit :=
  package.bindScalar slot kept

/-- Changes the array in a slot, which has to be there. -/
def changeArray (package : Package) (slot : Nat)
    (change : ArrayDescriptor → ArrayDescriptor × Except BindError Unit) :
    Package × Except BindError Unit :=
  match package.throughHandle slot change with
  | (after, none) => (after, .error (.arrayOutOfRange slot package.arrays.length))
  | (after, some result) => (after, result)

/-- Puts the address of an array into its slot. -/
def bindArray (package : Package) (slot : Nat) (address : Address) :
    Package × Except BindError Unit :=
  package.changeArray slot fun array => (array.bind address, .ok ())

/-- Puts the shape of an array, given in foreign axis order, into its slot. -/
def syncShape (package : Package) (slot : Nat) (foreign : List Int) :
    Package × Except BindError Unit :=
  package.changeArray slot fun array => array.syncShape foreign

/-- Takes the addresses of dynamic variables away. -/
def nullifyDynamic (package : Package) : Package :=
  { package with
    scalars := package.scalars.map fun scalar =>
      if scalar.dynamic then { scalar with address := none } else scalar
    arrays := package.arrays.map fun array =>
      if array.dynamic then { array with address := none } else array }

end Package

end ForeignGlue
