/-
**Generation fails at names that do not resolve.**

Names of bounds are looked up by five parts of the generator: the shape checks of wrappers, the
functions that set the shapes of static and of dynamic arrays, the binders of dynamic arrays, and the
group modules. `Interface.Needs` says which names an interface needs altogether, without reference to
these parts.

* `Routine.binding_eq_none_iff`: which names of a bound are not arguments of the routine;
* `Context.demands_hostSource`, `Context.demands_foreignSource`: what the two sources demand;
* `Generator.demands_generate`: generation demands what the interface needs.

What it needs does not include the names in bounds of hidden arrays, which no part renders, nor in
fixed form any shape text.
-/

import ForeignGlue.Proofs.Call.Acceptance
import ForeignGlue.Proofs.Generation.Demand
import ForeignGlue.Proofs.Inventory.Groups
import ForeignGlue.Proofs.ScalarIndex.Lookup

namespace ForeignGlue

open ForeignGlue.Source ForeignGlue.Text

/-! ### What an interface needs -/

/-- A name that stands for an argument whose value can size others: the first argument of this name
is one. -/
def Routine.Sizes (routine : Routine) (name : String) : Prop :=
  ∃ argument, routine.find? name = some argument ∧ argument.isSizing = true

/-- The names that have to resolve. -/
inductive Interface.Needs (interface : Interface) (options : Options) (name : String) : Prop
  /-- In a bound of a checked argument, unless it stands for an argument. -/
  | argument {routine : Routine} {argument : Argument} {bound : Bound}
      (declared : routine ∈ interface.routines) (taken : argument ∈ routine.arguments)
      (checked : argument.isChecked = true) (bounded : bound ∈ argument.bounds)
      (closed : bound.isAssumed = false) (mentioned : bound.Mentions name)
      (free : ¬routine.Sizes name)
  /-- In a bound of an array that the host sees. -/
  | bound {v : Variable} {bound : Bound} (visible : v ∈ interface.visibleVariables)
      (bounded : bound ∈ v.bounds) (closed : bound.isAssumed = false)
      (mentioned : bound.Mentions name)
  /-- In the shape text of a dynamic array that the host sees, which in free form has a binder. -/
  | binder {v : Variable} (form : options.dialect = .free)
      (visible : v ∈ interface.visibleVariables) (array : v.isScalar = false)
      (dynamic : v.dynamic = true) (mentioned : name ∈ Expression.names v.shape)
  /-- In the shape text of a static array, which a group module of free form declares. -/
  | declaration {v : Variable} (form : options.dialect = .free)
      (written : options.writeModules = true)
      (declared : v ∈ interface.visibleVariables ∨ v ∈ interface.hidden)
      (array : v.isScalar = false) (static : v.dynamic = false)
      (mentioned : name ∈ Expression.names v.shape)

/-! ### Names that stand for arguments -/

namespace Routine

variable {routine : Routine} {name : String}

/-- Arguments are found whatever the case of their names. -/
theorem find?_congr {other : String} (same : lower name = lower other) :
    routine.find? name = routine.find? other := by
  unfold find? sameName
  rw [same]

theorem sameName_of_find? {argument : Argument} (found : routine.find? name = some argument) :
    sameName argument.name name := by
  have named := List.find?_some found
  exact named

/-- Arguments are told apart by their positions. -/
theorem eq_of_position_eq (positioned : routine.Positioned) {first second : Argument}
    (firstTaken : first ∈ routine.arguments) (secondTaken : second ∈ routine.arguments)
    (same : first.position = second.position) : first = second := by
  obtain ⟨firstPlace, firstFound⟩ := List.mem_iff_getElem?.mp firstTaken
  obtain ⟨secondPlace, secondFound⟩ := List.mem_iff_getElem?.mp secondTaken
  rw [position_of_getElem? positioned firstFound, position_of_getElem? positioned secondFound]
    at same
  rw [same, secondFound] at firstFound
  exact (Option.some.inj firstFound).symm

/-- The sizing arguments are those that a bound names and that can size something. Of two with one
position only one is kept, and they are the same argument. -/
theorem mem_sizingArguments (positioned : routine.Positioned) {argument : Argument} :
    argument ∈ routine.sizingArguments ↔
      (∃ name ∈ routine.boundNames, routine.find? name = some argument) ∧
        argument.isSizing = true := by
  have candidate (other : Argument) :
      other ∈ (routine.boundNames.filterMap routine.find?).filter Argument.isSizing ↔
        (∃ name ∈ routine.boundNames, routine.find? name = some other) ∧
          other.isSizing = true := by
    rw [List.mem_filter, List.mem_filterMap]
  have taken {other : Argument}
      (member : other ∈ (routine.boundNames.filterMap routine.find?).filter Argument.isSizing) :
      other ∈ routine.arguments := by
    obtain ⟨⟨name, -, found⟩, -⟩ := (candidate other).mp member
    exact List.mem_of_find?_eq_some found
  rw [sizingArguments, ← candidate]
  refine ⟨mem_of_mem_distinctBy, fun member => ?_⟩
  have position : argument.position ∈ (distinctBy Argument.position
      ((routine.boundNames.filterMap routine.find?).filter Argument.isSizing)).map
        Argument.position := mem_map_distinctBy.mpr (List.mem_map_of_mem member)
  obtain ⟨kept, isKept, same⟩ := List.mem_map.mp position
  rw [← eq_of_position_eq positioned (taken (mem_of_mem_distinctBy isKept)) (taken member) same]
  exact isKept

/-- **Names that are not bound**: of the names in bounds of checked arguments, those that stand for
no argument. -/
theorem binding_eq_none_iff (positioned : routine.Positioned) (used : name ∈ routine.boundNames) :
    routine.binding name = none ↔ ¬routine.Sizes name := by
  have named : (routine.sizingArguments.any fun argument => sameName argument.name name) ↔
      routine.Sizes name := by
    rw [List.any_eq_true]
    constructor
    · rintro ⟨argument, member, same⟩
      obtain ⟨⟨other, -, found⟩, sizing⟩ := (mem_sizingArguments positioned).mp member
      have isNamed := sameName_iff.mp (sameName_of_find? found)
      refine ⟨argument, ?_, sizing⟩
      rw [← found]
      exact find?_congr ((sameName_iff.mp same).symm.trans isNamed)
    · rintro ⟨argument, found, sizing⟩
      refine ⟨argument, (mem_sizingArguments positioned).mpr ⟨⟨name, used, found⟩, sizing⟩, ?_⟩
      exact sameName_of_find? found
  rw [binding, ← named]
  split
  · next bound => simp [bound]
  · next free => simp [free]

/-- The names that the checks of a routine mention. -/
theorem mem_boundNames {argument : Argument} {bound : Bound} (taken : argument ∈ routine.arguments)
    (checked : argument.isChecked = true) (bounded : bound ∈ argument.bounds)
    (mentioned : bound.Mentions name) : name ∈ routine.boundNames := by
  rw [boundNames, List.mem_flatMap]
  refine ⟨argument, List.mem_filter.mpr ⟨taken, checked⟩, ?_⟩
  rw [List.mem_flatMap]
  exact ⟨bound, bounded, List.mem_append.mpr mentioned⟩

end Routine

/-! ### Parts of the generator -/

namespace Context

variable (ctx : Context)

theorem mem_iff_numbered {α : Type} {items : List α} {item : α} :
    item ∈ items ↔ ∃ number, (number, item) ∈ items.mapIdx fun number item => (number, item) := by
  simp [List.mem_iff_getElem]

/-- Items that are numbered before some are chosen. -/
theorem exists_numbered {α : Type} {items : List α} {keep : α → Bool} {holds : α → Prop} :
    (∃ numbered ∈ (items.mapIdx fun number item => (number, item)).filter
      fun (_, item) => keep item, holds numbered.2) ↔ ∃ item ∈ items.filter keep, holds item := by
  simp only [@mem_iff_numbered _ items, List.mem_filter, Prod.exists]
  constructor
  · rintro ⟨number, item, ⟨member, kept⟩, held⟩
    exact ⟨item, ⟨⟨number, member⟩, kept⟩, held⟩
  · rintro ⟨item, ⟨⟨number, member⟩, kept⟩, held⟩
    exact ⟨number, item, ⟨member, kept⟩, held⟩

/-- The bounds that are not left open. -/
theorem exists_closed {bounds : List Bound} {holds : Bound → Prop} :
    (∃ numbered ∈ (bounds.mapIdx fun dimension bound => (dimension, bound)).filter
      fun (_, bound) => !bound.isAssumed, holds numbered.2) ↔
      ∃ bound ∈ bounds, bound.isAssumed = false ∧ holds bound := by
  refine (@exists_numbered _ bounds (fun bound => !bound.isAssumed) holds).trans ?_
  simp only [List.mem_filter, Bool.not_eq_true', and_assoc]

/-- The closed dimensions of an array, rendered one after the other, demand what each of them
does. -/
theorem demands_closed {α : Type} {scope : Scope} {bounds : List Bound}
    {outcome : Nat × Bound → Except GenerationError α} {needsAt : Bound → String → Prop}
    (each : ∀ numbered, numbered.2 ∈ bounds →
      Demands scope (outcome numbered = .error ·) (needsAt numbered.2)) :
    Demands scope
      (collect (((bounds.mapIdx fun dimension bound => (dimension, bound)).filter
        fun (_, bound) => !bound.isAssumed).map outcome) = .error ·)
      fun name => ∃ bound ∈ bounds, bound.isAssumed = false ∧ needsAt bound name := by
  refine (Demands.collect fun numbered member => each numbered ?_).congr (fun _ => .rfl)
    fun name => exists_closed.symm
  exact mem_iff_numbered.mpr ⟨numbered.1, (List.mem_filter.mp member).1⟩

/-- A shape check demands the names that do not stand for arguments. -/
theorem demands_knownExtents {routine : Routine} (positioned : routine.Positioned)
    {argument : Argument} (taken : argument ∈ routine.arguments)
    (checked : argument.isChecked = true) :
    Demands ctx.scope (ctx.knownExtents routine argument = .error ·) fun name =>
      ∃ bound ∈ argument.bounds, bound.isAssumed = false ∧
        bound.Mentions name ∧ ¬routine.Sizes name := by
  refine demands_closed fun numbered bounded => ?_
  refine ((ctx.scope.demands_extent routine.binding numbered.2).bindPure _).congr (fun _ => .rfl)
    fun name => and_congr_right fun mentioned => ?_
  exact (Routine.binding_eq_none_iff positioned
    (Routine.mem_boundNames taken checked bounded mentioned)).symm

/-- What sets the shape of an array demands the names in its bounds. -/
theorem demands_shapeStores (slot : Nat) (array : Variable) :
    Demands ctx.scope (ctx.shapeStores slot array = .error ·) fun name =>
      ∃ bound ∈ array.bounds, bound.isAssumed = false ∧ bound.Mentions name := by
  refine demands_closed fun numbered _ => ?_
  exact ((ctx.scope.demands_extent .none numbered.2).bindPure _).congr (fun _ => .rfl)
    fun name => (and_iff_left rfl).symm

/-- Setting an array asks for the names in its shape. -/
theorem demands_arrayGroups (v : Variable) :
    Demands ctx.scope (ctx.arrayGroups v = .error ·) (· ∈ Expression.names v.shape) :=
  (ctx.scope.demands_groupsIn v.shape).bindPure _

/-- The module of a group demands the names in the shape texts of its static arrays. -/
theorem demands_shapeGroups (group : String) :
    Demands ctx.scope (ctx.shapeGroups group = .error ·) fun name =>
      ∃ v ∈ (ctx.inventory.variablesIn group).filter fun v => !v.isScalar && !v.isDynamic,
        name ∈ Expression.names v.shape :=
  (Demands.collect fun v _ => ctx.scope.demands_groupsIn v.shape).bindPure _

/-! ### The host source -/

variable {error : GenerationError}

/-- The errors in the bodies of definitions. -/
def Fails (items : List Item) (error : GenerationError) : Prop :=
  ∃ defined, .definition defined ∈ items ∧ .error error ∈ defined.body

theorem error_mem_layOutItems {items : List Item} :
    .error error ∈ layOutItems items ↔ Fails items error := by
  have inLines (item : Item) : .error error ∈ item.lines ↔
      ∃ defined, item = .definition defined ∧ .error error ∈ defined.body := by
    cases item <;> simp [Item.lines]
  have ended : .error error ∈ layOutItems items ↔ .error error ∈ items.flatMap Item.lines := by
    rw [layOutItems, endLines, List.mem_map]
    constructor
    · rintro ⟨_ | line, member, same⟩
      · exact Except.error.inj same ▸ member
      · cases same
    · exact fun member => ⟨_, member, rfl⟩
  rw [ended, List.mem_flatMap]
  constructor
  · rintro ⟨item, member, failed⟩
    obtain ⟨defined, rfl, inBody⟩ := (inLines item).mp failed
    exact ⟨defined, member, inBody⟩
  · rintro ⟨defined, member, failed⟩
    exact ⟨_, member, (inLines _).mpr ⟨defined, rfl, failed⟩⟩

/-- A list of items fails where one of its parts does. -/
theorem fails_append {first second : List Item} :
    Fails (first ++ second) error ↔ Fails first error ∨ Fails second error := by
  simp only [Fails, List.mem_append, or_and_right, exists_or]

theorem fails_flatMap {α : Type} {sources : List α} {items : α → List Item} :
    Fails (sources.flatMap items) error ↔ ∃ source ∈ sources, Fails (items source) error := by
  simp only [Fails, List.mem_flatMap]
  constructor
  · rintro ⟨defined, ⟨source, listed, member⟩, failed⟩
    exact ⟨source, listed, defined, member, failed⟩
  · rintro ⟨source, listed, defined, member, failed⟩
    exact ⟨defined, ⟨source, listed, member⟩, failed⟩

/-- The shape checks of a wrapper fail where an extent cannot be written. -/
theorem error_mem_shapeCheckLines {routine : Routine} :
    .error error ∈ ctx.shapeCheckLines routine ↔
      ∃ argument ∈ routine.arguments.filter Argument.isChecked,
        ctx.knownExtents routine argument = .error error := by
  have inCheck (check : ShapeCheck) :
      .error error ∈ check.lines routine ctx.scope ↔ check.extents = .error error := by
    rw [ShapeCheck.lines, List.mem_append, or_iff_right (Draft.error_mem_ofList _)]
    cases check.extents with
    | error first => simp [eq_comm]
    | ok extents => simp [Draft.error_mem_ofList]
  have inChecks : (∃ check ∈ ctx.shapeChecks routine, check.extents = .error error) ↔
      ∃ argument ∈ routine.arguments.filter Argument.isChecked,
        ctx.knownExtents routine argument = .error error := by
    rw [← exists_numbered, shapeChecks]
    simp only [List.mem_map, exists_exists_and_eq_and]
  rw [shapeCheckLines, ← inChecks]
  cases ctx.shapeChecks routine with
  | nil => simp
  | cons first rest =>
      simp only [List.isEmpty_cons, Bool.false_eq_true, if_false, List.mem_append,
        List.mem_singleton, reduceCtorEq, or_false, Draft.error_mem_ofList, false_or,
        List.mem_flatMap, inCheck]

theorem error_mem_storeLines {indent : String} {numbered : NumberedArray} :
    .error error ∈ ctx.storeLines indent numbered.slot numbered.array ↔
      ctx.shapeStores numbered.slot numbered.array = .error error := by
  rw [storeLines]
  cases ctx.shapeStores numbered.slot numbered.array with
  | error first => simp [eq_comm]
  | ok stores => simp [Draft.error_mem_ofList]

/-- Wrappers fail in their shape checks. -/
theorem fails_wrappersItems : Fails ctx.wrappersItems error ↔
    ∃ routine ∈ ctx.inventory.routines, .error error ∈ ctx.shapeCheckLines routine := by
  have inWrapper (routine : Routine) : Fails (ctx.wrapperItems routine) error ↔
      .error error ∈ ctx.shapeCheckLines routine := by
    simp [Fails, wrapperItems, braced, wrapperBody, Draft.error_mem_ofList]
  have noLine : ¬Fails [.line ""] error := by simp [Fails]
  simp only [wrappersItems, fails_append, fails_flatMap, inWrapper, noLine, or_false]

/-- The shapes of static arrays. -/
theorem fails_staticShapeItems : Fails ctx.staticShapeItems error ↔
    ∃ numbered ∈ ctx.numberedArrays, numbered.array.isDynamic = false ∧
      ctx.shapeStores numbered.slot numbered.array = .error error := by
  simp [Fails, staticShapeItems, braced, error_mem_storeLines, and_assoc]

theorem exists_numberedArrays {holds : Variable → Prop} :
    (∃ numbered ∈ ctx.numberedArrays, holds numbered.array) ↔ ∃ v ∈ ctx.inventory.arrays, holds v := by
  have listed (v : Variable) : v ∈ ctx.inventory.arrays ↔
      ∃ numbered ∈ ctx.numberedArrays, numbered.array = v := by
    simp [numberedArrays, List.mem_iff_getElem]
  simp only [listed]
  constructor
  · rintro ⟨numbered, member, held⟩
    exact ⟨numbered.array, ⟨numbered, member, rfl⟩, held⟩
  · rintro ⟨_, ⟨numbered, member, rfl⟩, held⟩
    exact ⟨numbered, member, held⟩

/-- The dynamic arrays are those of the groups that have some. -/
theorem exists_dynamicArraysIn {holds : NumberedArray → Prop} :
    (∃ group ∈ ctx.dynamicGroups, ∃ numbered ∈ ctx.dynamicArraysIn group, holds numbered) ↔
      ∃ numbered ∈ ctx.numberedArrays, numbered.array.isDynamic = true ∧ holds numbered := by
  constructor
  · rintro ⟨group, -, numbered, member, held⟩
    obtain ⟨listed, dynamic⟩ := List.mem_filter.mp (List.mem_filter.mp member).1
    exact ⟨numbered, listed, dynamic, held⟩
  · rintro ⟨numbered, listed, dynamic, held⟩
    have member : numbered ∈ ctx.dynamicArrays := List.mem_filter.mpr ⟨listed, dynamic⟩
    refine ⟨numbered.array.group, ?_, numbered, ?_, held⟩
    · exact mem_distinct.mpr (List.mem_map.mpr ⟨numbered, member, rfl⟩)
    · exact List.mem_filter.mpr ⟨member, beq_self_eq_true _⟩

/-- The shapes of dynamic arrays, group by group. -/
theorem fails_dynamicShapeItems : Fails ctx.dynamicShapeItems error ↔
    ∃ numbered ∈ ctx.numberedArrays, numbered.array.isDynamic = true ∧
      ctx.shapeStores numbered.slot numbered.array = .error error := by
  have inMember (numbered : NumberedArray) : .error error ∈ ctx.memberShapeLines numbered ↔
      ctx.shapeStores numbered.slot numbered.array = .error error := by
    simp [memberShapeLines, error_mem_storeLines]
  have inGroups : Fails ctx.dynamicShapeItems error ↔ ∃ group ∈ ctx.dynamicGroups,
      ∃ numbered ∈ ctx.dynamicArraysIn group,
        ctx.shapeStores numbered.slot numbered.array = .error error := by
    simp [Fails, dynamicShapeItems, groupShapeItem, braced, inMember, Draft.error_mem_ofList]
  rw [inGroups, exists_dynamicArraysIn]

/-- **Where the host source can fail**: in the shape checks of wrappers, and in what sets the shapes of
arrays. All other parts are lines that are known beforehand. -/
theorem fails_hostItems : Fails ctx.hostItems error ↔
    (∃ routine ∈ ctx.inventory.routines, .error error ∈ ctx.shapeCheckLines routine) ∨
      ∃ numbered ∈ ctx.numberedArrays,
        ctx.shapeStores numbered.slot numbered.array = .error error := by
  have prototypes : ¬Fails ctx.prototypeItems error := by simp [Fails, prototypeItems]
  have binderPrototypes : ¬Fails ctx.binderPrototypeItems error := by
    simp [Fails, binderPrototypeItems]
  have table (storage type size table : String) (rows : List String) :
      ¬Fails (tableItems storage type size table rows) error := by
    cases rows <;> simp [Fails, tableItems, Draft.error_mem_ofList]
  have externals : ¬Fails ctx.externalTableItems error := by simp [Fails, externalTableItems]
  have methodTable : ¬Fails ctx.methodTableItems error := by
    simp [Fails, methodTableItems, Draft.error_mem_ofList]
  have binders : ¬Fails ctx.binderItems error := by
    simp [Fails, binderItems, binderItem, braced, Draft.error_mem_ofList]
  have moduleInit : ¬Fails ctx.moduleInitItems error := by
    simp [Fails, moduleInitItems, moduleDefinition, initDefinition, braced, Draft.error_mem_ofList]
  simp only [hostItems, scalarTableItems, arrayTableItems, fails_append, prototypes,
    binderPrototypes, table, externals, methodTable, binders, moduleInit, fails_wrappersItems,
    fails_staticShapeItems, fails_dynamicShapeItems, false_or, or_false]
  have either (numbered : NumberedArray) :
      numbered.array.isDynamic = false ∨ numbered.array.isDynamic = true := by
    cases numbered.array.isDynamic <;> simp
  rw [or_assoc, ← exists_or]
  simp only [← and_or_left, ← or_and_right, either, true_and]

/-- The names in the bounds of checked arguments, and in those of visible arrays. -/
def HostNeeds (name : String) : Prop :=
  (∃ routine ∈ ctx.inventory.routines, ∃ argument ∈ routine.arguments.filter Argument.isChecked,
    ∃ bound ∈ argument.bounds, bound.isAssumed = false ∧ bound.Mentions name ∧
      ¬routine.Sizes name) ∨
  ∃ v ∈ ctx.inventory.arrays, ∃ bound ∈ v.bounds, bound.isAssumed = false ∧ bound.Mentions name

/-- **What the host source asks for.** -/
theorem demands_hostSource
    (positioned : ∀ routine ∈ ctx.inventory.routines, routine.Positioned) :
    Demands ctx.scope (ctx.hostSource = .error ·) ctx.HostNeeds := by
  have checks (routine : Routine) (declared : routine ∈ ctx.inventory.routines) :=
    Demands.forEach fun (argument : Argument) member =>
      ctx.demands_knownExtents (positioned routine declared) (List.mem_filter.mp member).1
        (List.mem_filter.mp member).2
  have stores := Demands.forEach fun numbered (_ : numbered ∈ ctx.numberedArrays) =>
    ctx.demands_shapeStores numbered.slot numbered.array
  refine Draft.demands_finish (((Demands.forEach checks).or stores).congr (fun error => ?_)
    fun name => or_congr_right ?_)
  · simp only [error_mem_layOutItems, fails_hostItems, error_mem_shapeCheckLines]
  · exact ctx.exists_numberedArrays.symm

/-! ### The foreign source -/

theorem error_mem_scalarSubroutines (v : Variable) :
    ¬∃ subroutine ∈ ctx.scalarSubroutines v, .error error ∈ subroutine.body := by
  have setter : .error error ∉ (ctx.scalarSetter v).body := Draft.error_mem_ofList _
  have getter : .error error ∉ (ctx.scalarGetter v).body := Draft.error_mem_ofList _
  rw [scalarSubroutines]
  cases v.isDynamic || v.isRecord <;> cases v.isDynamic && v.isRecord <;> simp [setter, getter]

/-- Only the setter of a dynamic array asks for its shape. -/
theorem error_mem_arraySubroutines (v : Variable) :
    (∃ subroutine ∈ ctx.arraySubroutines v, .error error ∈ subroutine.body) ↔
      v.isDynamic = true ∧ ctx.arrayGroups v = .error error := by
  have setter : .error error ∈ (ctx.arraySetter v).body ↔ ctx.arrayGroups v = .error error := by
    rw [arraySetter]
    cases ctx.arrayGroups v with
    | error first => simp [eq_comm]
    | ok groups => simp [Draft.error_mem_ofList]
  have getter : .error error ∉ (ctx.arrayGetter v).body := Draft.error_mem_ofList _
  rw [arraySubroutines]
  cases v.isDynamic with
  | false => simp
  | true => cases v.isReassigned <;> simp [setter, getter]

/-- Of the binders only those of arrays can fail. -/
theorem error_mem_binders :
    (∃ subroutine ∈ ctx.binders, .error error ∈ subroutine.body) ↔
      ∃ v ∈ ctx.inventory.arrays.filter Variable.isDynamic, ctx.arrayGroups v = .error error := by
  simp only [binders, List.mem_append, List.mem_flatMap, or_and_right, exists_or]
  constructor
  · rintro (⟨subroutine, ⟨v, -, own⟩, failed⟩ | ⟨subroutine, ⟨v, listed, own⟩, failed⟩)
    · exact absurd ⟨subroutine, own, failed⟩ (ctx.error_mem_scalarSubroutines v)
    · obtain ⟨dynamic, stopped⟩ :=
        (ctx.error_mem_arraySubroutines v).mp ⟨subroutine, own, failed⟩
      exact ⟨v, List.mem_filter.mpr ⟨listed, dynamic⟩, stopped⟩
  · rintro ⟨v, member, stopped⟩
    obtain ⟨listed, dynamic⟩ := List.mem_filter.mp member
    obtain ⟨subroutine, own, failed⟩ :=
      (ctx.error_mem_arraySubroutines v).mpr ⟨dynamic, stopped⟩
    exact .inr ⟨subroutine, ⟨v, listed, own⟩, failed⟩

/-- Subroutines ask for shapes in free form only, for the dynamic arrays. -/
theorem error_mem_linkageStatements : .error error ∈ ctx.linkageStatements ↔
    ctx.options.dialect = .free ∧
      ∃ v ∈ ctx.inventory.arrays.filter Variable.isDynamic, ctx.arrayGroups v = .error error := by
  have inStatements (subroutine : Subroutine) :
      .error error ∈ subroutine.statements ↔ .error error ∈ subroutine.body := by
    simp [Subroutine.statements]
  have passes : .error error ∉ ctx.passPointers.body := Draft.error_mem_ofList _
  have clears : .error error ∉ ctx.nullifyPointers.body := Draft.error_mem_ofList _
  have fills : .error error ∉ ctx.dataRoutine.body := Draft.error_mem_ofList _
  rw [← error_mem_binders]
  simp only [linkageStatements, List.mem_flatMap, inStatements, subroutines]
  cases ctx.options.dialect with
  | fixed => simp [passes, clears, fills]
  | free => simp [passes, clears]

theorem error_mem_groupModules :
    .error error ∈ ctx.groupModules.flatMap GroupModule.statements ↔
      ctx.options.dialect = .free ∧
        ∃ group ∈ ctx.inventory.groupNames, ctx.shapeGroups group = .error error := by
  have inModule (group : String) : .error error ∈ (ctx.groupModule group).statements ↔
      ctx.shapeGroups group = .error error := by
    simp only [GroupModule.statements, groupModule]
    cases ctx.shapeGroups group with
    | error first => simp [Draft.error_mem_ofList, eq_comm]
    | ok groups => simp [Draft.error_mem_ofList]
  rw [groupModules]
  cases ctx.options.dialect with
  | fixed => simp
  | free => simp [List.flatMap_map, inModule]

/-- The names in the shape texts of dynamic arrays. -/
def BinderNeeds (name : String) : Prop :=
  ctx.options.dialect = .free ∧ ∃ v ∈ ctx.inventory.arrays.filter Variable.isDynamic,
    name ∈ Expression.names v.shape

/-- **What the subroutines ask for.** -/
theorem demands_linkageDraft :
    Demands ctx.scope (ctx.linkageDraft.finish = .error ·) ctx.BinderNeeds := by
  have shapes := Demands.forEach fun v (_ : v ∈ ctx.inventory.arrays.filter Variable.isDynamic) =>
    ctx.demands_arrayGroups v
  exact Draft.demands_finish (demands_layOutStatements _
    (shapes.when.congr (fun _ => ctx.error_mem_linkageStatements) fun _ => .rfl))

/-- The names in the shape texts of static arrays, if group modules are written. -/
def ModuleNeeds (name : String) : Prop :=
  ctx.options.writeModules = true ∧ ctx.options.dialect = .free ∧
    ∃ group ∈ ctx.inventory.groupNames,
      ∃ v ∈ (ctx.inventory.variablesIn group).filter fun v => !v.isScalar && !v.isDynamic,
        name ∈ Expression.names v.shape

/-- **What the modules of groups ask for.** -/
theorem demands_groupSource :
    Demands ctx.scope (ctx.groupSource = .error ·) ctx.ModuleNeeds := by
  have shapes := Demands.forEach fun group (_ : group ∈ ctx.inventory.groupNames) =>
    ctx.demands_shapeGroups group
  have modules := Draft.demands_finish (demands_layOutStatements ctx.options.dialect
    (shapes.when.congr (fun _ => ctx.error_mem_groupModules) fun _ => .rfl))
  refine modules.when.congr (fun error => ?_) fun _ => .rfl
  rw [groupSource]
  cases ctx.options.writeModules with
  | false => simp
  | true => exact (and_iff_right rfl).symm

end Context

/-! ### Generation -/

/-- The static arrays that group modules declare: all, of one group or another. -/
theorem Inventory.exists_group_iff {interface : Interface} {v : Variable} :
    (∃ group ∈ (ofInterface interface).groupNames,
      v ∈ ((ofInterface interface).variablesIn group).filter fun v => !v.isScalar && !v.isDynamic) ↔
      ∃ declared : Variable,
        (declared ∈ interface.visibleVariables ∨ declared ∈ interface.hidden) ∧
          declared.isScalar = false ∧ declared.dynamic = false ∧ declared.annotate = v := by
  simp only [List.mem_filter, variablesIn, mem_allVariables, Bool.and_eq_true, Bool.not_eq_true',
    beq_iff_eq]
  constructor
  · rintro ⟨group, -, ⟨⟨declared, known, rfl⟩, -⟩, array, static⟩
    exact ⟨declared, known, array, declared.isDynamic_annotate ▸ static, rfl⟩
  · rintro ⟨declared, known, array, static, rfl⟩
    have grouped := group_mem_groupNames (mem_allVariables.mpr ⟨declared, known, rfl⟩)
    exact ⟨declared.group, grouped, ⟨⟨declared, known, rfl⟩, rfl⟩, array,
      declared.isDynamic_annotate.trans static⟩

namespace Generator

variable (generator : Generator) (interface : Interface)

/-- The interface with the timers that are added to it. -/
def timed : Interface :=
  if generator.options.timeRoutines then interface.addTimers else interface

theorem inventory_context :
    (generator.context interface).inventory = .ofInterface (generator.timed interface) :=
  rfl

theorem routines_timed : (generator.timed interface).routines = interface.routines := by
  rw [timed]
  cases generator.options.timeRoutines with
  | false => rfl
  | true => simp [Interface.addTimers, Interface.routines, Declaration.asRoutine?]

theorem hidden_timed : (generator.timed interface).hidden = interface.hidden := by
  rw [timed]
  cases generator.options.timeRoutines <;> rfl

/-- Timers are scalars. -/
theorem mem_visibleVariables_timed {v : Variable} (array : v.isScalar = false) :
    v ∈ (generator.timed interface).visibleVariables ↔ v ∈ interface.visibleVariables := by
  have timer (routine : Routine) : interface.timer routine ≠ v := by
    rintro rfl
    cases array
  rw [timed]
  cases generator.options.timeRoutines with
  | false => rfl
  | true => simp [Interface.addTimers, Interface.visibleVariables, Declaration.asVariable?, timer]

/-- The arrays of a context are the visible ones of the interface. -/
theorem mem_arrays_context {v : Variable} :
    v ∈ (generator.context interface).inventory.arrays ↔ ∃ declared ∈ interface.visibleVariables,
      declared.isScalar = false ∧ declared.annotate = v := by
  rw [inventory_context, Inventory.mem_arrays]
  refine exists_congr fun declared => and_congr_left fun kind => ?_
  exact generator.mem_visibleVariables_timed interface kind.1

theorem routines_context :
    (generator.context interface).inventory.routines = interface.routines :=
  generator.routines_timed interface

/-- **What an interface needs** is what the parts of the generator need together. -/
theorem needs_iff (name : String) : interface.Needs generator.options name ↔
    (generator.context interface).HostNeeds name ∨
      (generator.context interface).BinderNeeds name ∨
      (generator.context interface).ModuleNeeds name := by
  constructor
  · intro needed
    cases needed with
    | argument declared taken checked bounded closed mentioned free =>
        rw [← generator.routines_context interface] at declared
        exact .inl (.inl ⟨_, declared, _, List.mem_filter.mpr ⟨taken, checked⟩, _, bounded, closed,
          mentioned, free⟩)
    | @bound v bound visible bounded closed mentioned =>
        have array : v.isScalar = false := List.isEmpty_eq_false_iff_exists_mem.mpr ⟨bound, bounded⟩
        have listed := (generator.mem_arrays_context interface).mpr ⟨v, visible, array, rfl⟩
        exact .inl (.inr ⟨v.annotate, listed, bound, bounded, closed, mentioned⟩)
    | @binder v form visible array dynamic mentioned =>
        have listed := (generator.mem_arrays_context interface).mpr ⟨v, visible, array, rfl⟩
        have known := v.isDynamic_annotate.trans dynamic
        exact .inr (.inl ⟨form, _, List.mem_filter.mpr ⟨listed, known⟩, mentioned⟩)
    | @declaration v form written declared array static mentioned =>
        rw [← generator.mem_visibleVariables_timed interface array,
          ← generator.hidden_timed interface] at declared
        obtain ⟨group, known, member⟩ :=
          Inventory.exists_group_iff.mpr ⟨v, declared, array, static, rfl⟩
        exact .inr (.inr ⟨written, form, group, known, _, member, mentioned⟩)
  · rintro ((⟨routine, declared, argument, member, bound, bounded, closed, mentioned, free⟩ |
      ⟨v, listed, bound, bounded, closed, mentioned⟩) | ⟨form, v, member, mentioned⟩ |
      ⟨written, form, group, known, v, member, mentioned⟩)
    · rw [generator.routines_context interface] at declared
      obtain ⟨taken, checked⟩ := List.mem_filter.mp member
      exact .argument declared taken checked bounded closed mentioned free
    · obtain ⟨declared, visible, -, rfl⟩ := (generator.mem_arrays_context interface).mp listed
      exact .bound visible bounded closed mentioned
    · obtain ⟨listed, dynamic⟩ := List.mem_filter.mp member
      obtain ⟨declared, visible, array, rfl⟩ := (generator.mem_arrays_context interface).mp listed
      rw [Variable.isDynamic_annotate] at dynamic
      exact .binder form visible array dynamic mentioned
    · rw [generator.inventory_context interface] at known member
      obtain ⟨declared, listed, array, static, rfl⟩ :=
        Inventory.exists_group_iff.mp ⟨group, known, member⟩
      rw [generator.mem_visibleVariables_timed interface array, generator.hidden_timed interface]
        at listed
      exact .declaration form written listed array static mentioned

variable {generator interface}

/-- **Generation demands what the interface needs.** -/
theorem demands_generate (plain : generator.records = .none)
    (positioned : ∀ routine ∈ interface.routines, routine.Positioned) :
    Demands (generator.context interface).scope (generator.generate interface = .error ·)
      (interface.Needs generator.options) := by
  rw [← generator.routines_context interface] at positioned
  have host := (generator.context interface).demands_hostSource positioned
  have linkage := (generator.context interface).demands_linkageDraft
  have modules := (generator.context interface).demands_groupSource
  have steps : generator.generate interface =
      (generator.context interface).hostSource >>= fun host =>
        (generator.context interface).foreignSource "" >>= fun foreign =>
          pure (assemble (generator.context interface) (host ++ "") foreign) := by
    rw [generate, plain]
    rfl
  rw [steps]
  exact (host.bind fun _ _ => (linkage.bind fun _ _ => modules.bindPure _).bindPure _).congr
    (fun _ => .rfl) (generator.needs_iff interface)

/-- **Generation fails exactly at names that do not resolve.** Without code of record types, and for
routines that are put together argument by argument: if generation succeeds, every name that the
interface needs resolves. If it fails at a name, the interface needs this name, and neither the module
nor any external module has it. If every name resolves, it can only fail at a line that cannot be
broken. -/
theorem generate_resolves (plain : generator.records = .none)
    (positioned : ∀ routine ∈ interface.routines, routine.Positioned) :
    (∀ generated, generator.generate interface = .ok generated →
      ∀ name, interface.Needs generator.options name →
        ∃ slot, (generator.context interface).scope.resolve name = .ok slot) ∧
    (∀ name, generator.generate interface = .error (.unresolved name) →
      interface.Needs generator.options name ∧
        (generator.context interface).inventory.slot? name = none ∧
        ∀ index ∈ generator.externals, index.slot? name = none) ∧
    ((∀ name, interface.Needs generator.options name →
        ∃ slot, (generator.context interface).scope.resolve name = .ok slot) →
      ∀ error, generator.generate interface = .error error →
        ∃ line, error = .noLineBreak line) := by
  have demands := demands_generate plain positioned
  refine ⟨fun generated done => demands.resolved ?_, fun name failed => ?_,
    fun known error failed => ?_⟩
  · intro error failed
    rw [done] at failed
    cases failed
  · rcases demands.blamed _ failed with ⟨other, needed, missing⟩ | ⟨line, impossible⟩
    · obtain ⟨same, notOwn, notExternal⟩ := Scope.resolve_eq_error_iff.mp missing
      obtain rfl := GenerationError.unresolved.inj same
      exact ⟨needed, notOwn, notExternal⟩
    · cases impossible
  · rcases demands.blamed error failed with ⟨name, needed, missing⟩ | broken
    · obtain ⟨slot, found⟩ := known name needed
      rw [found] at missing
      cases missing
    · exact broken

/-- A subroutine whose first argument is sized by its second and by a name that nothing has. -/
def sizedInterface : Interface where
  module := "wxy"
  declarations := [.routine (((Routine.subroutine "smooth").arg
    { name := "x", type := .real, bounds := [⟨"1", "M"⟩, ⟨"1", "n"⟩] }).arg
    { name := "m", type := .integer })]

/-- Generation fails at the name, which the interface needs and does not have. -/
theorem generate_resolves_sized :
    (Generator.generate {} sizedInterface = .error (.unresolved "n")) ∧
      sizedInterface.Needs {} "n" := by
  have positioned : ∀ routine ∈ sizedInterface.routines, routine.Positioned := by
    intro routine member
    obtain rfl := List.mem_singleton.mp member
    rfl
  have failed : Generator.generate {} sizedInterface = .error (.unresolved "n") := by
    decide +kernel
  have located := (generate_resolves rfl positioned).2.1 "n" failed
  exact ⟨failed, located.1⟩

end Generator

end ForeignGlue
