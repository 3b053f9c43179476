/-
The inventory of a module.

The declarations are sorted into scalars, arrays and routines, each in declaration order, and the
variables are annotated with their storage properties. The position of a variable among the scalars
or the arrays is its slot in the descriptor table.
-/

import ForeignGlue.Distinct
import ForeignGlue.Interface.Basic
import ForeignGlue.ScalarIndex.Basic

namespace ForeignGlue

open ForeignGlue.Text

/-- A group of variables that share a foreign module. -/
structure Group where
  name : String
  /-- Whether none of its variables is seen by the host. -/
  hidden : Bool
  deriving DecidableEq, Repr

/-- What a module has, sorted. -/
structure Inventory where
  module : String
  /-- The scalars that the host sees, in table order. -/
  scalars : List Variable
  /-- The arrays that the host sees, in table order. -/
  arrays : List Variable
  routines : List Routine
  /-- The variables that the host does not see. -/
  hidden : List Variable
  records : List RecordType
  /-- The groups: those the host sees, then those it does not, each where it first appears. -/
  groups : List Group
  /-- The slots of the scalars, by their names in lower case. -/
  dictionary : SlotMap := .ofScalars scalars
  dictionary_eq : dictionary = .ofScalars scalars := by rfl
  /-- Every variable has the storage properties that its declaration gives. -/
  annotated : ∀ v ∈ scalars ++ arrays ++ hidden, v.annotate = v := by decide
  deriving DecidableEq

/-- The groups of an interface: those of visible variables, then those that only hidden variables
have, each where it first appears. -/
def Interface.groups (interface : Interface) : List Group :=
  let visible := distinct (interface.visibleVariables.map Variable.group)
  let unseen := (distinct (interface.hidden.map Variable.group)).filter fun name =>
    !visible.contains name
  visible.map (Group.mk · false) ++ unseen.map (Group.mk · true)

namespace Inventory

/-- The inventory of an interface. -/
def ofInterface (interface : Interface) : Inventory where
  module := interface.module
  scalars := (interface.visibleVariables.map Variable.annotate).filter Variable.isScalar
  arrays := (interface.visibleVariables.map Variable.annotate).filter fun v => !v.isScalar
  routines := interface.routines
  hidden := interface.hidden.map Variable.annotate
  records := interface.records
  groups := interface.groups
  annotated := by
    intro v member
    have isAnnotated : ∃ declared : Variable, declared.annotate = v := by
      simp only [List.mem_append, List.mem_filter, List.mem_map] at member
      rcases member with (⟨⟨declared, -, same⟩, -⟩ | ⟨⟨declared, -, same⟩, -⟩) | ⟨declared, -, same⟩ <;>
        exact ⟨declared, same⟩
    obtain ⟨declared, rfl⟩ := isAnnotated
    exact declared.annotate_annotate

/-- The names of the groups. -/
def groupNames (inventory : Inventory) : List String :=
  inventory.groups.map Group.name

/-- All variables: scalars, arrays, then hidden ones. -/
def allVariables (inventory : Inventory) : List Variable :=
  inventory.scalars ++ inventory.arrays ++ inventory.hidden

/-- The variables of a group: scalars, arrays, then hidden ones. -/
def variablesIn (inventory : Inventory) (group : String) : List Variable :=
  inventory.allVariables.filter fun v => v.group == group

/-- The slot of a scalar, in any case. -/
def slot? (inventory : Inventory) (name : String) : Option Nat :=
  inventory.dictionary.get? (lower name)

/-- The published index. -/
def index (inventory : Inventory) : ScalarIndex :=
  .ofScalars inventory.module inventory.scalars

end Inventory

/-! ### Timers -/

/-- The name of the scalar that adds up the time spent in a routine. -/
def Routine.timerName (routine : Routine) : String :=
  routine.name ++ "runtime"

namespace Interface

/-- Whether a scalar of a name is declared, in any case. -/
def declaresScalar (interface : Interface) (name : String) : Bool :=
  interface.visibleVariables.any fun v => v.isScalar && sameName v.name name

/-- The timer of a routine. -/
def timer (interface : Interface) (routine : Routine) : Variable :=
  { Variable.scalar routine.timerName .double (interface.module ++ "timers") with
    initializer := some "/0./"
    comment := "Run time of the routine, in seconds" }

/-- The interface with a timer declared for every routine that has none. -/
def addTimers (interface : Interface) : Interface :=
  let untimed := interface.routines.filter fun routine =>
    !interface.declaresScalar routine.timerName
  { interface with
    declarations := interface.declarations ++
      untimed.map fun routine => .variable (interface.timer routine) }

end Interface

end ForeignGlue
