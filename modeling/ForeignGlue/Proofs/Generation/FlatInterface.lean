/-
**Initial values on one line.**

An initial value is text of the interface file and may run over several lines. What is generated is
compared with what is generated after every such text was flattened, its line ends turned into blanks.

* `Interface.flattened`: the interface with every initial value on one line;
* `Generator.context_flattened`: what is generated from is the same but for these values;
* `Context.alike_hostSource`: the host source fails in the same way;
* `Context.linkageDraft_flattened`: the subroutines are the same.
-/

import ForeignGlue.Proofs.Generation.MoreExternals
import ForeignGlue.Proofs.Generation.Resolution
import ForeignGlue.Proofs.Source.FlatLines
import ForeignGlue.Proofs.Text.Respelling

namespace ForeignGlue

open ForeignGlue.Source
open ForeignGlue.Text

/-! ### Flattened initial values -/

/-- A flattened text has no line ends left. -/
theorem Text.flattenLines_flattenLines (text : String) :
    flattenLines (flattenLines text) = flattenLines text :=
  flattenLines_eq_self_iff.mpr (newline_not_mem_flattenLines text)

/-- Delimiters and the blanks around a value are taken off in the same way. -/
theorem initialValue_flattenLines (initializer : String) :
    initialValue (flattenLines initializer) = flattenLines (initialValue initializer) := by
  have keeps : ∀ c, isBlank (if c == '\n' then ' ' else c) = isBlank c := by
    intro c
    split
    · next isEnd =>
        rw [beq_iff_eq.mp isEnd]
        decide
    · rfl
  unfold initialValue flattenLines
  simp only [String.toList_ofList, trimChars_map keeps, List.length_map]
  split
  · rw [String.toList_ofList]
  · rw [String.toList_ofList, ← List.map_tail, ← List.map_dropLast, trimChars_map keeps]

/-- The variable with its initial value on one line. -/
def Variable.flattened (v : Variable) : Variable :=
  { v with initializer := v.initializer.map flattenLines }

/-- Initial values are not looked at when a variable is annotated. -/
theorem Variable.annotate_flattened (v : Variable) : v.flattened.annotate = v.annotate.flattened :=
  rfl

/-- The declaration with its initial value on one line. -/
def Declaration.flattened : Declaration → Declaration
  | .variable declared => .variable declared.flattened
  | .routine declared => .routine declared

/-- The record type with the initial values of its members on one line each. -/
def RecordType.flattened (record : RecordType) : RecordType :=
  { record with members := record.members.map Variable.flattened }

/-- **The interface with every initial value on one line.** -/
def Interface.flattened (interface : Interface) : Interface where
  module := interface.module
  declarations := interface.declarations.map Declaration.flattened
  hidden := interface.hidden.map Variable.flattened
  records := interface.records.map RecordType.flattened

/-- Storage properties do not depend on initial values. -/
theorem map_annotate_flattened (declared : List Variable) :
    (declared.map Variable.flattened).map Variable.annotate =
      (declared.map Variable.annotate).map Variable.flattened := by
  rw [List.map_map, List.map_map]
  exact List.map_congr_left fun v _ => v.annotate_flattened

/-- A choice that does not look at initial values. -/
theorem filter_flattened (keeps : Variable → Bool)
    (same : ∀ v : Variable, keeps v.flattened = keeps v) (declared : List Variable) :
    (declared.map Variable.flattened).filter keeps =
      (declared.filter keeps).map Variable.flattened := by
  rw [List.filter_map]
  exact congrArg _ (List.filter_congr fun v _ => same v)

theorem mapIdx_map {α β γ : Type} (change : α → β) (work : Nat → β → γ) (items : List α) :
    (items.map change).mapIdx work = items.mapIdx fun place item => work place (change item) := by
  apply List.ext_getElem?
  intro place
  rw [List.getElem?_mapIdx, List.getElem?_mapIdx, List.getElem?_map, Option.map_map]
  rfl

/-- Slots go by names. -/
theorem SlotMap.ofScalars_flattened (scalars : List Variable) :
    SlotMap.ofScalars (scalars.map Variable.flattened) = .ofScalars scalars := by
  unfold ofScalars
  rw [mapIdx_map]
  rfl

/-- The inventory with every initial value on one line. -/
def Inventory.flattened (inventory : Inventory) : Inventory where
  module := inventory.module
  scalars := inventory.scalars.map Variable.flattened
  arrays := inventory.arrays.map Variable.flattened
  routines := inventory.routines
  hidden := inventory.hidden.map Variable.flattened
  records := inventory.records.map RecordType.flattened
  groups := inventory.groups
  dictionary := inventory.dictionary
  dictionary_eq := inventory.dictionary_eq.trans (SlotMap.ofScalars_flattened _).symm
  annotated := by
    rw [← List.map_append, ← List.map_append]
    intro v member
    obtain ⟨declared, listed, rfl⟩ := List.mem_map.mp member
    rw [Variable.annotate_flattened, inventory.annotated declared listed]

/-- The context with every initial value on one line. -/
def Context.flattened (ctx : Context) : Context :=
  { ctx with inventory := ctx.inventory.flattened }

namespace Interface

variable (interface : Interface)

/-- The visible variables are the flattened ones. -/
theorem visibleVariables_flattened :
    interface.flattened.visibleVariables = interface.visibleVariables.map Variable.flattened := by
  unfold visibleVariables flattened
  rw [List.filterMap_map, List.map_filterMap]
  refine List.filterMap_congr fun declaration _ => ?_
  rcases declaration with declared | declared
  · rfl
  · rfl

theorem routines_flattened : interface.flattened.routines = interface.routines := by
  unfold routines flattened
  rw [List.filterMap_map]
  refine List.filterMap_congr fun declaration _ => ?_
  rcases declaration with declared | declared
  · rfl
  · rfl

theorem groups_flattened : interface.flattened.groups = interface.groups := by
  have grouped (declared : List Variable) :
      (declared.map Variable.flattened).map Variable.group = declared.map Variable.group := by
    rw [List.map_map]
    rfl
  have hidden : interface.flattened.hidden = interface.hidden.map Variable.flattened := rfl
  unfold groups
  rw [visibleVariables_flattened, hidden, grouped, grouped]

theorem declaresScalar_flattened (name : String) :
    interface.flattened.declaresScalar name = interface.declaresScalar name := by
  unfold declaresScalar
  rw [visibleVariables_flattened, List.any_map]
  rfl

/-- Timers start at zero, on one line. -/
theorem timer_flattened (routine : Routine) :
    (interface.timer routine).flattened = interface.timer routine := by
  have zero : flattenLines "/0./" = "/0./" := by decide
  unfold timer Variable.flattened
  rw [Option.map_some, zero]

/-- Timers have no initial values, and which ones are added goes by names. -/
theorem addTimers_flattened : interface.flattened.addTimers = interface.addTimers.flattened := by
  have added (routines : List Routine) :
      (routines.map fun routine => Declaration.variable (interface.timer routine)) =
        (routines.map fun routine => Declaration.variable (interface.timer routine)).map
          Declaration.flattened := by
    rw [List.map_map]
    refine List.map_congr_left fun routine _ => ?_
    exact congrArg Declaration.variable (interface.timer_flattened routine).symm
  unfold addTimers
  simp only [routines_flattened, declaresScalar_flattened]
  unfold flattened
  simp only [List.map_append]
  rw [← added]
  rfl

end Interface

/-- **The inventory of the flattened interface.** -/
theorem Inventory.ofInterface_flattened (interface : Interface) :
    ofInterface interface.flattened = (ofInterface interface).flattened := by
  let declared := interface.visibleVariables.map Variable.annotate
  have scalars := filter_flattened Variable.isScalar (fun _ => rfl) declared
  have arrays := filter_flattened (fun v => !v.isScalar) (fun _ => rfl) declared
  have hidden : interface.flattened.hidden = interface.hidden.map Variable.flattened := rfl
  unfold ofInterface flattened
  simp only [interface.visibleVariables_flattened, map_annotate_flattened, declared, scalars, arrays,
    hidden, interface.routines_flattened, interface.groups_flattened, SlotMap.ofScalars_flattened]
  rfl

/-- **The context of the flattened interface.** -/
theorem Generator.context_flattened (generator : Generator) (interface : Interface) :
    generator.context interface.flattened = (generator.context interface).flattened := by
  have timed : generator.timed interface.flattened = (generator.timed interface).flattened := by
    unfold Generator.timed
    split
    · exact interface.addTimers_flattened
    · rfl
  have inventory : Inventory.ofInterface (generator.timed interface.flattened) =
      (Inventory.ofInterface (generator.timed interface)).flattened := by
    rw [timed, Inventory.ofInterface_flattened]
  exact congrArg (Context.mk · generator.options generator.types generator.externals) inventory

/-- The array with its initial value on one line. -/
def NumberedArray.flattened (numbered : NumberedArray) : NumberedArray :=
  { numbered with array := numbered.array.flattened }

/-! ### What does not read initial values -/

namespace Scope

/-- The scope with every initial value on one line. -/
def flattened (scope : Scope) : Scope :=
  { scope with scalars := scope.scalars.map Variable.flattened }

variable (scope : Scope)

/-- Names resolve to the same slots. -/
theorem resolve_flattened : scope.flattened.resolve = scope.resolve := rfl

theorem groupOf_flattened : scope.flattened.groupOf = scope.groupOf := by
  funext slot
  cases slot with
  | own slot =>
      show ((scope.scalars.map Variable.flattened)[slot]?).map Variable.group =
        scope.scalars[slot]?.map Variable.group
      rw [List.getElem?_map, Option.map_map]
      rfl
  | external index slot => rfl

theorem groupsIn_flattened : scope.flattened.groupsIn = scope.groupsIn := by
  unfold groupsIn
  rw [resolve_flattened, groupOf_flattened]

end Scope

/-! #### Drafts and tables -/

theorem Source.Draft.map_ofList {α β : Type} (change : α → β) (pieces : List α) :
    (Draft.ofList pieces).map (·.map change) = Draft.ofList (pieces.map change) := by
  unfold Draft.ofList
  rw [List.map_map, List.map_map]
  rfl

/-- The text of statements goes by their lines. -/
theorem Source.layOutStatements_congr {dialect : Dialect} {statements others : Draft Statement}
    (same : statements.map (·.map Statement.line) = others.map (·.map Statement.line)) :
    layOutStatements dialect statements = layOutStatements dialect others := by
  have throughLines (draft : Draft Statement) : layOutStatements dialect draft =
      (draft.map (·.map Statement.line)).map (·.bind (Line.write dialect)) := by
    unfold layOutStatements Draft.refine
    rw [List.map_map]
    refine List.map_congr_left fun piece _ => ?_
    cases piece with
    | error error => rfl
    | ok statement => rfl
  rw [throughLines, throughLines, same]

/-- Rows of a table are never at fault. -/
theorem alike_tableItems (storage type size table : String) {rows others : List String}
    (same : rows.length = others.length) :
    List.Forall₂ (Alike (fun _ _ => True) Eq)
      (layOutItems (tableItems storage type size table rows))
      (layOutItems (tableItems storage type size table others)) := by
  cases rows with
  | nil =>
      obtain rfl := List.length_eq_zero_iff.mp same.symm
      exact .cons (.ok trivial) (.cons (.ok trivial) .nil)
  | cons row rows =>
      cases others with
      | nil => cases same
      | cons other others =>
          have body : List.Forall₂ (Alike (fun (_ _ : String) => True) Eq)
              (endLines [.ok (join ",\n" (row :: rows)), .ok "\x7d;"])
              (endLines [.ok (join ",\n" (other :: others)), .ok "\x7d;"]) :=
            .cons (.ok trivial) (.cons (.ok trivial) .nil)
          exact .cons (.ok trivial) (.cons (.ok trivial) body)

namespace Context

variable (ctx : Context)

theorem options_flattened : ctx.flattened.options = ctx.options := rfl

/-! #### The host source -/

/-- Arrays keep their numbers. -/
theorem numberedArrays_flattened :
    ctx.flattened.numberedArrays = ctx.numberedArrays.map NumberedArray.flattened := by
  apply List.ext_getElem?
  intro place
  show ((ctx.inventory.arrays.map Variable.flattened).mapIdx NumberedArray.mk)[place]? =
    ((ctx.inventory.arrays.mapIdx NumberedArray.mk).map NumberedArray.flattened)[place]?
  rw [mapIdx_map, List.getElem?_mapIdx, List.getElem?_map, List.getElem?_mapIdx, Option.map_map]
  rfl

/-- Shapes of static arrays are set in the same way. -/
theorem staticShapeItems_flattened : ctx.flattened.staticShapeItems = ctx.staticShapeItems := by
  unfold staticShapeItems
  dsimp only
  rw [numberedArrays_flattened, List.filter_map, List.flatMap_map]
  rfl

theorem dynamicArrays_flattened :
    ctx.flattened.dynamicArrays = ctx.dynamicArrays.map NumberedArray.flattened := by
  unfold dynamicArrays
  rw [numberedArrays_flattened, List.filter_map]
  rfl

theorem dynamicGroups_flattened : ctx.flattened.dynamicGroups = ctx.dynamicGroups := by
  unfold dynamicGroups
  rw [dynamicArrays_flattened, List.map_map]
  rfl

theorem dynamicArraysIn_flattened (group : String) :
    ctx.flattened.dynamicArraysIn group = (ctx.dynamicArraysIn group).map NumberedArray.flattened := by
  unfold dynamicArraysIn
  rw [dynamicArrays_flattened, List.filter_map]
  rfl

theorem groupShapeItem_flattened : ctx.flattened.groupShapeItem = ctx.groupShapeItem := by
  funext group
  unfold groupShapeItem
  rw [dynamicArraysIn_flattened, List.flatMap_map]
  rfl

theorem dispatchLine_flattened : ctx.flattened.dispatchLine = ctx.dispatchLine := by
  funext group
  unfold dispatchLine
  dsimp only
  rw [dynamicArraysIn_flattened, List.head?_map, List.getLast?_map]
  cases (ctx.dynamicArraysIn group).head? with
  | none => rfl
  | some first =>
      cases (ctx.dynamicArraysIn group).getLast? with
      | none => rfl
      | some last => rfl

/-- Shapes of dynamic arrays are set in the same way. -/
theorem dynamicShapeItems_flattened : ctx.flattened.dynamicShapeItems = ctx.dynamicShapeItems := by
  unfold dynamicShapeItems
  rw [dynamicGroups_flattened, groupShapeItem_flattened, dispatchLine_flattened]
  rfl

/-- Descriptors of scalars have no initial values. -/
theorem scalars_package_flattened : ctx.flattened.package.scalars = ctx.package.scalars := by
  show (ctx.inventory.scalars.map Variable.flattened).map ctx.flattened.scalarDescriptor = _
  rw [List.map_map]
  rfl

theorem binderPrototypeItems_flattened :
    ctx.flattened.binderPrototypeItems = ctx.binderPrototypeItems := by
  have arrays : ctx.flattened.package.arrays.flatMap arrayPrototypes =
      ctx.package.arrays.flatMap arrayPrototypes := by
    show ((ctx.inventory.arrays.map Variable.flattened).map ctx.flattened.arrayDescriptor).flatMap
      arrayPrototypes = (ctx.inventory.arrays.map ctx.arrayDescriptor).flatMap arrayPrototypes
    rw [List.flatMap_map, List.flatMap_map, List.flatMap_map]
    rfl
  unfold binderPrototypeItems
  rw [scalars_package_flattened, arrays]

theorem prototypeItems_flattened : ctx.flattened.prototypeItems = ctx.prototypeItems := by
  have constructors : ctx.flattened.inventory.records.map
      (fun record => Item.prototype (ctx.flattened.constructorPrototype record)) =
        ctx.inventory.records.map fun record => .prototype (ctx.constructorPrototype record) := by
    show (ctx.inventory.records.map RecordType.flattened).map _ = _
    rw [List.map_map]
    rfl
  unfold prototypeItems
  rw [constructors]
  rfl

theorem methodTableItems_flattened : ctx.flattened.methodTableItems = ctx.methodTableItems := by
  have constructors : ctx.flattened.inventory.records.map ctx.flattened.constructorRow =
      ctx.inventory.records.map ctx.constructorRow := by
    show (ctx.inventory.records.map RecordType.flattened).map _ = _
    rw [List.map_map]
    rfl
  unfold methodTableItems
  rw [constructors]
  rfl

theorem scalarTableItems_flattened : ctx.flattened.scalarTableItems = ctx.scalarTableItems := by
  unfold scalarTableItems
  rw [scalars_package_flattened]
  rfl

/-- **The host source fails in the same way**: of its items only the array table reads initial values,
for the buffers that are filled with them. -/
theorem alike_hostSource :
    Alike (fun _ _ => True) Eq ctx.hostSource ctx.flattened.hostSource := by
  have same (items : List Item) : List.Forall₂ (Alike (fun (_ _ : String) => True) Eq)
      (layOutItems items) (layOutItems items) := by
    refine List.forall₂_same.mpr fun line _ => ?_
    cases line with
    | error error => exact .error rfl
    | ok line => exact .ok trivial
  have rows : (ctx.package.arrays.map ArrayDescriptor.row).length =
      (ctx.flattened.package.arrays.map ArrayDescriptor.row).length := by
    show ((ctx.inventory.arrays.map ctx.arrayDescriptor).map _).length =
      (((ctx.inventory.arrays.map Variable.flattened).map ctx.flattened.arrayDescriptor).map _).length
    simp only [List.length_map]
  have table : List.Forall₂ (Alike (fun (_ _ : String) => True) Eq)
      (layOutItems ctx.arrayTableItems) (layOutItems ctx.flattened.arrayTableItems) :=
    alike_tableItems _ _ _ _ rows
  have lines : List.Forall₂ (Alike (fun (_ _ : String) => True) Eq) (layOutItems ctx.hostItems)
      (layOutItems ctx.flattened.hostItems) := by
    have start := List.rel_append
      (same (ctx.prototypeItems ++ ctx.binderPrototypeItems ++ ctx.scalarTableItems)) table
    have whole := List.rel_append start (same (ctx.wrappersItems ++ ctx.methodTableItems ++
      ctx.staticShapeItems ++ ctx.dynamicShapeItems ++ ctx.binderItems ++ ctx.moduleInitItems))
    simp only [← layOutItems_append, ← List.append_assoc] at whole
    unfold hostItems
    rw [prototypeItems_flattened, binderPrototypeItems_flattened, scalarTableItems_flattened,
      methodTableItems_flattened, staticShapeItems_flattened, dynamicShapeItems_flattened]
    exact whole
  unfold hostSource
  rw [Draft.finish_eq_map_collect, Draft.finish_eq_map_collect]
  exact (Alike.collect lines).map fun _ _ _ => trivial

/-! #### The subroutines -/

theorem passPointers_flattened : ctx.flattened.passPointers = ctx.passPointers := by
  unfold passPointers
  show Subroutine.mk _ _ (.ofList (_ ++
    ((ctx.inventory.scalars.map Variable.flattened).mapIdx _).flatten ++
    ((ctx.inventory.arrays.map Variable.flattened).mapIdx _).flatten ++ _)) = _
  rw [mapIdx_map, mapIdx_map]
  rfl

theorem nullifyPointers_flattened : ctx.flattened.nullifyPointers = ctx.nullifyPointers := by
  unfold nullifyPointers
  show Subroutine.mk _ _ (.ofList (_ ++ ((ctx.inventory.scalars.map Variable.flattened ++
    ctx.inventory.arrays.map Variable.flattened).filter Variable.isDynamic).map _ ++ _)) = _
  rw [← List.map_append, List.filter_map, List.map_map]
  rfl

theorem arrayGroups_flattened (v : Variable) :
    ctx.flattened.arrayGroups v.flattened = ctx.arrayGroups v := by
  show (do
    let groups ← ctx.scope.flattened.groupsIn v.shape
    return (groups.filter fun group => group != v.group) ++ [v.group]) = _
  rw [Scope.groupsIn_flattened]
  rfl

/-- The subroutines of an array. -/
theorem arraySubroutines_flattened (v : Variable) :
    ctx.flattened.arraySubroutines v.flattened = ctx.arraySubroutines v := by
  have setter : ctx.flattened.arraySetter v.flattened = ctx.arraySetter v := by
    unfold arraySetter
    rw [arrayGroups_flattened]
    rfl
  unfold arraySubroutines
  rw [setter]
  rfl

/-- All subroutines of variables. -/
theorem binders_flattened : ctx.flattened.binders = ctx.binders := by
  unfold binders
  show (ctx.inventory.scalars.map Variable.flattened).flatMap _ ++
    (ctx.inventory.arrays.map Variable.flattened).flatMap _ = _
  rw [List.flatMap_map, List.flatMap_map]
  simp only [arraySubroutines_flattened]
  rfl

/-- What gives initial values in fixed form writes them on one line already. -/
theorem lines_dataRoutine_flattened :
    ctx.flattened.dataRoutine.statements.map (·.map Statement.line) =
      ctx.dataRoutine.statements.map (·.map Statement.line) := by
  have filled : ctx.flattened.inventory.scalars ++
        (ctx.flattened.inventory.arrays.filter fun v => !v.isDynamic) =
      (ctx.inventory.scalars ++ ctx.inventory.arrays.filter fun v => !v.isDynamic).map
        Variable.flattened := by
    show ctx.inventory.scalars.map Variable.flattened ++
      (ctx.inventory.arrays.map Variable.flattened).filter _ = _
    rw [List.filter_map, List.map_append]
    rfl
  have data (v : Variable) :
      (v.flattened.initializer.map (Statement.data 0 v.flattened.name)).map Statement.line =
        (v.initializer.map (Statement.data 0 v.name)).map Statement.line := by
    show ((v.initializer.map flattenLines).map (Statement.data 0 v.name)).map Statement.line = _
    cases v.initializer with
    | none => rfl
    | some initializer =>
        exact congrArg (fun value => some (Line.statement (blanks 0 ++ "data " ++ v.name ++ value)))
          (flattenLines_flattenLines initializer)
  have given (declared : List Variable) :
      ((declared.map Variable.flattened).filterMap fun v => v.initializer.map (.data 0 v.name)).map
          Statement.line =
        (declared.filterMap fun v => v.initializer.map (.data 0 v.name)).map Statement.line := by
    rw [List.filterMap_map, List.map_filterMap, List.map_filterMap]
    exact List.filterMap_congr fun v _ => data v
  have between (before after : List Statement) {middle other : List Statement}
      (same : middle.map Statement.line = other.map Statement.line) :
      (before ++ middle ++ after).map Statement.line = (before ++ other ++ after).map Statement.line := by
    rw [List.map_append, List.map_append, same, ← List.map_append, ← List.map_append]
  unfold dataRoutine Subroutine.statements
  rw [filled, List.map_cons, List.map_cons, Draft.map_ofList, Draft.map_ofList]
  exact congrArg (fun rest => _ :: Draft.ofList rest) (between _ _ (given _))

/-- **The subroutines are the same.** -/
theorem linkageDraft_flattened : ctx.flattened.linkageDraft = ctx.linkageDraft := by
  unfold linkageDraft
  refine layOutStatements_congr ?_
  unfold linkageStatements subroutines
  rw [passPointers_flattened, nullifyPointers_flattened, binders_flattened,
    options_flattened]
  cases ctx.options.dialect with
  | free => rfl
  | fixed =>
      simp only [List.flatMap_append, List.map_append, List.flatMap_singleton,
        lines_dataRoutine_flattened]

end Context

end ForeignGlue
