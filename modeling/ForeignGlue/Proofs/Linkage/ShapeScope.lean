/-
**Names of shapes in scope.**

The foreign code that declares a shape needs the modules of the scalars that the shape names: the binder
of a dynamic array, whose buffer has the shape, and the group module of a static array. What a name
stands for is said by `owner?`, without slots and maps.

* `Context.binderUses_arrayGroups`: a binder makes known the groups of these scalars, and last the
  array's own;
* `Context.moduleUses_shapeGroups`: a group module makes known those of all its static arrays, but not
  itself;
* `Context.shapeNames_inScope`: these are the `USE` lines of what is written.
-/

import ForeignGlue.Proofs.CSource.Layout
import ForeignGlue.Proofs.Inventory.Groups
import ForeignGlue.Proofs.Linkage.ModuleOrder
import ForeignGlue.Proofs.ScalarIndex.Owner

namespace ForeignGlue

open ForeignGlue.Source

/-! ### What is written -/

namespace Source

/-- **Statements as they are written.** The text is that of each statement in order. After the head the
modules are made known, one after the other, and no others are. The lines of the head and of these uses
are the first ones. -/
structure Draft.IsWritten (draft : Draft Statement) (dialect : Dialect) (text headed : String)
    (uses : List String) : Prop where
  lines : ∃ texts, List.Forall₂ (fun (statement : Statement) written =>
    statement.line.write dialect = .ok written) draft.statements texts ∧ text = String.join texts
  opening : ∃ head rest, draft.statements = head :: (uses.map .use ++ rest) ∧ head.used? = none ∧
    ∀ statement ∈ rest, statement.used? = none
  spelled : ∃ rest, draft.lines dialect = headed :: (uses.map (useLine dialect) ++ rest)

/-- Statements that begin with a head and uses, as they are written. -/
theorem Draft.isWritten_of_opening {draft : Draft Statement} {dialect : Dialect} {text : String}
    {head : Statement} {uses : List String} {rest : List Statement}
    (lines : ∃ texts, List.Forall₂ (fun (statement : Statement) written =>
      statement.line.write dialect = .ok written) draft.statements texts ∧ text = String.join texts)
    (opening : draft.statements = head :: (uses.map .use ++ rest)) (isHead : head.used? = none)
    (others : ∀ statement ∈ rest, statement.used? = none) :
    draft.IsWritten dialect text (head.line.layOut dialect) uses := by
  refine ⟨lines, ⟨head, rest, opening, isHead, others⟩,
    rest.map fun statement => statement.line.layOut dialect, ?_⟩
  rw [Draft.lines, opening, List.map_cons, List.map_append, List.map_map]
  refine congrArg (fun lines => _ :: (lines ++ _)) (List.map_congr_left fun module _ => ?_)
  exact layOut_use dialect module

theorem layOutStatements_append (dialect : Dialect) (first second : Draft Statement) :
    layOutStatements dialect (first ++ second) =
      layOutStatements dialect first ++ layOutStatements dialect second :=
  List.map_append

/-- A part of a source that is written is written itself. -/
theorem exists_part_of_finish {α : Type} {items : List α} {item : α} (member : item ∈ items)
    {dialect : Dialect} {draft : α → Draft Statement} {source : String}
    (done : (layOutStatements dialect (items.flatMap draft)).finish = .ok source) :
    ∃ before text after, source = before ++ text ++ after ∧
      (layOutStatements dialect (draft item)).finish = .ok text := by
  obtain ⟨front, back, rfl⟩ := List.append_of_mem member
  rw [List.flatMap_append, List.flatMap_cons, layOutStatements_append, layOutStatements_append] at done
  obtain ⟨before, rest, -, later, rfl⟩ := CSource.finish_append_eq_ok done
  obtain ⟨text, after, here, -, rfl⟩ := CSource.finish_append_eq_ok later
  exact ⟨before, text, after, String.append_assoc.symm, here⟩

end Source

/-! ### The groups that shapes need -/

/-- **Groups of the scalars that a shape names**: every name stands for a scalar, and its group is there. -/
structure CoversShape (tables : List (List Variable)) (shape : String) (groups : List String) :
    Prop where
  inScope : ∀ name ∈ Expression.names shape, ∃ scalar, owner? tables name = some scalar ∧
    scalar.group ∈ groups
  needed : ∀ group ∈ groups, ∃ name ∈ Expression.names shape, ∃ scalar,
    owner? tables name = some scalar ∧ scalar.group = group

theorem Scope.coversShape_groupsIn {scope : Scope} (indexed : scope.IsIndexed) {shape : String}
    {groups : List String} (found : scope.groupsIn shape = .ok groups) :
    groups.Nodup ∧ CoversShape scope.tables shape groups := by
  obtain ⟨owned, rfl⟩ := owners_of_groupsIn indexed found
  refine ⟨nodup_distinct _, ?_, ?_⟩
  · intro name used
    obtain ⟨scalar, stands⟩ := Option.isSome_iff_exists.mp (owned name used)
    refine ⟨scalar, stands, mem_distinct.mpr (List.mem_filterMap.mpr ⟨name, used, ?_⟩)⟩
    rw [stands]
    rfl
  · intro group listed
    obtain ⟨name, used, grouped⟩ := List.mem_filterMap.mp (mem_distinct.mp listed)
    obtain ⟨scalar, stands, same⟩ := Option.map_eq_some_iff.mp grouped
    exact ⟨name, used, scalar, stands, same⟩

/-- **What the binder of an array makes known**: each group once, the array's own last, and with it the
groups of the scalars that the shape names and no others. -/
structure BinderUses (tables : List (List Variable)) (v : Variable) (uses : List String) : Prop where
  once : uses.Nodup
  ownLast : uses.getLast? = some v.group
  inScope : ∀ name ∈ Expression.names v.shape, ∃ scalar, owner? tables name = some scalar ∧
    scalar.group ∈ uses
  needed : ∀ group ∈ uses, group = v.group ∨ ∃ name ∈ Expression.names v.shape, ∃ scalar,
    owner? tables name = some scalar ∧ scalar.group = group

/-- A static array of a group, which the host sees or does not. -/
structure Interface.HasStatic (interface : Interface) (group : String) (v : Variable) : Prop where
  declared : v ∈ interface.visibleVariables ∨ v ∈ interface.hidden
  isArray : v.isScalar = false
  static : v.dynamic = false
  grouped : v.group = group

/-- **What a group module makes known for its shapes**: each group once, never itself, and the groups of
the scalars that the shapes of its static arrays name and no others. -/
structure ModuleUses (tables : List (List Variable)) (interface : Interface) (group : String)
    (uses : List String) : Prop where
  once : uses.Nodup
  notOwn : group ∉ uses
  inScope : ∀ v, interface.HasStatic group v → ∀ name ∈ Expression.names v.shape,
    ∃ scalar, owner? tables name = some scalar ∧ (scalar.group = group ∨ scalar.group ∈ uses)
  needed : ∀ other ∈ uses, ∃ v, interface.HasStatic group v ∧ ∃ name ∈ Expression.names v.shape,
    ∃ scalar, owner? tables name = some scalar ∧ scalar.group = other

section Annotated

variable {scalars : List Variable} {tables : List (List Variable)} {name : String}

/-- What is said of the group of the scalar that a name stands for is said of annotated scalars too. -/
theorem exists_owner_annotate (holds : String → Prop) :
    (∃ scalar, owner? (scalars.map Variable.annotate :: tables) name = some scalar ∧
      holds scalar.group) ↔
      ∃ scalar, owner? (scalars :: tables) name = some scalar ∧ holds scalar.group := by
  have grouped (found : Option Variable) : (∃ scalar, found = some scalar ∧ holds scalar.group) ↔
      ∃ group, found.map Variable.group = some group ∧ holds group := by
    cases found with
    | none => simp
    | some scalar => simp
  rw [grouped, grouped, map_group_owner?_annotate]

theorem BinderUses.of_annotate {v : Variable} {uses : List String}
    (known : BinderUses (scalars.map Variable.annotate :: tables) v.annotate uses) :
    BinderUses (scalars :: tables) v uses where
  once := known.once
  ownLast := known.ownLast
  inScope name used := (exists_owner_annotate (· ∈ uses)).mp (known.inScope name used)
  needed group listed := (known.needed group listed).imp_right fun ⟨name, used, owned⟩ =>
    ⟨name, used, (exists_owner_annotate (· = group)).mp owned⟩

theorem ModuleUses.of_annotate {interface : Interface} {group : String} {uses : List String}
    (known : ModuleUses (scalars.map Variable.annotate :: tables) interface group uses) :
    ModuleUses (scalars :: tables) interface group uses where
  once := known.once
  notOwn := known.notOwn
  inScope v static name used :=
    (exists_owner_annotate fun found => found = group ∨ found ∈ uses).mp
      (known.inScope v static name used)
  needed other listed := by
    obtain ⟨v, static, name, used, owned⟩ := known.needed other listed
    exact ⟨v, static, name, used, (exists_owner_annotate (· = other)).mp owned⟩

end Annotated

namespace Context

variable {ctx : Context}

theorem binderUses_arrayGroups (indexed : ctx.scope.IsIndexed) {v : Variable} {uses : List String}
    (found : ctx.arrayGroups v = .ok uses) : BinderUses ctx.scope.tables v uses := by
  obtain ⟨groups, inShape, rest⟩ := bind_eq_ok_iff.mp found
  obtain rfl := Except.ok.inj rest
  obtain ⟨once, covers⟩ := Scope.coversShape_groupsIn indexed inShape
  have mem_uses : ∀ group, group ∈ (groups.filter fun group => group != v.group) ++ [v.group] ↔
      group ∈ groups ∨ group = v.group := by
    intro group
    by_cases own : group = v.group <;> simp [own]
  refine ⟨?_, List.getLast?_concat, ?_, ?_⟩
  · refine List.nodup_append.mpr ⟨once.filter _, by simp, ?_⟩
    intro group other last own
    rw [List.mem_singleton.mp own]
    exact bne_iff_ne.mp (List.mem_filter.mp other).2
  · intro name used
    obtain ⟨scalar, stands, listed⟩ := covers.inScope name used
    exact ⟨scalar, stands, (mem_uses _).mpr (Or.inl listed)⟩
  · intro group listed
    exact ((mem_uses group).mp listed).symm.imp_right (covers.needed group)

theorem mem_staticArrays {interface : Interface} (sorted : ctx.inventory = .ofInterface interface)
    {group : String} {v : Variable} :
    (v ∈ (ctx.inventory.variablesIn group).filter fun v => !v.isScalar && !v.isDynamic) ↔
      ∃ declared, interface.HasStatic group declared ∧ declared.annotate = v := by
  rw [Inventory.variablesIn, List.filter_filter, List.mem_filter, sorted, Inventory.mem_allVariables]
  simp only [Bool.and_eq_true, Bool.not_eq_true', beq_iff_eq]
  constructor
  · rintro ⟨⟨declared, known, rfl⟩, ⟨isArray, static⟩, grouped⟩
    rw [declared.isDynamic_annotate] at static
    exact ⟨declared, ⟨known, isArray, static, grouped⟩, rfl⟩
  · rintro ⟨declared, ⟨known, isArray, static, grouped⟩, rfl⟩
    exact ⟨⟨declared, known, rfl⟩, ⟨isArray, declared.isDynamic_annotate.trans static⟩, grouped⟩

theorem moduleUses_shapeGroups {interface : Interface} (sorted : ctx.inventory = .ofInterface interface)
    (indexed : ctx.scope.IsIndexed) {group : String} {uses : List String}
    (found : ctx.shapeGroups group = .ok uses) :
    ModuleUses ctx.scope.tables interface group uses := by
  obtain ⟨shapes, collected, rest⟩ := bind_eq_ok_iff.mp found
  obtain rfl := Except.ok.inj rest
  have each := collect_eq_ok_iff.mp collected
  have mem_uses : ∀ other, (other ∈ distinct (shapes.flatten.filter fun other => other != group)) ↔
      (∃ groups ∈ shapes, other ∈ groups) ∧ other ≠ group := by
    intro other
    rw [mem_distinct, List.mem_filter, List.mem_flatten, bne_iff_ne]
  refine ⟨nodup_distinct _, fun own => ((mem_uses group).mp own).2 rfl, ?_, ?_⟩
  · intro v static name used
    obtain ⟨groups, listed, inShape⟩ := List.mem_map.mp
      (each ▸ List.mem_map_of_mem ((mem_staticArrays sorted).mpr ⟨v, static, rfl⟩))
    obtain ⟨-, covers⟩ := Scope.coversShape_groupsIn indexed inShape.symm
    obtain ⟨scalar, stands, grouped⟩ := covers.inScope name used
    refine ⟨scalar, stands, or_iff_not_imp_left.mpr fun other => ?_⟩
    exact (mem_uses _).mpr ⟨⟨groups, listed, grouped⟩, other⟩
  · intro other used
    obtain ⟨⟨groups, listed, grouped⟩, -⟩ := (mem_uses other).mp used
    obtain ⟨v, static, inShape⟩ := List.mem_map.mp
      (each.symm ▸ List.mem_map_of_mem (f := Except.ok) listed)
    obtain ⟨-, covers⟩ := Scope.coversShape_groupsIn indexed inShape
    obtain ⟨declared, isStatic, rfl⟩ := (mem_staticArrays sorted).mp static
    exact ⟨declared, isStatic, covers.needed other grouped⟩

/-! ### The lines that make them known -/

theorem isWritten_arraySetter {v : Variable} {dialect : Dialect} {text : String}
    (done : (layOutStatements dialect (ctx.arraySetter v).statements).finish = .ok text) :
    ∃ uses, ctx.arrayGroups v = .ok uses ∧
      Draft.IsWritten (ctx.arraySetter v).statements dialect text
        (headLine dialect (ctx.foreignSymbol "setpointer" v.name) ["p__", "cobj__", "dims__"]) uses := by
  obtain ⟨clean, lines⟩ := finish_layOutStatements done
  cases found : ctx.arrayGroups v with
  | error error =>
      refine absurd ?_ (clean error)
      rw [Subroutine.statements, arraySetter, found]
      exact List.mem_cons_of_mem _ List.mem_cons_self
  | ok uses =>
      refine ⟨uses, rfl, ?_⟩
      rw [← layOut_subroutine]
      rw [Subroutine.statements, arraySetter, found] at lines ⊢
      refine Draft.isWritten_of_opening lines (congrArg (List.cons _) (Draft.statements_ofList _)) rfl ?_
      simp [declareIndices, Statement.used?]

theorem isWritten_groupModule {group : String} {dialect : Dialect} {text : String}
    (done : (layOutStatements dialect (ctx.groupModule group).statements).finish = .ok text) :
    ∃ shapes, ctx.shapeGroups group = .ok shapes ∧
      Draft.IsWritten (ctx.groupModule group).statements dialect text
        ((Statement.moduleStart group).line.layOut dialect)
        ((ctx.groupModule group).recordModules ++ shapes) := by
  obtain ⟨clean, lines⟩ := finish_layOutStatements done
  obtain ⟨shapes, found, spelled⟩ := statements_groupModule clean
  rw [List.cons_append, List.append_assoc] at spelled
  refine ⟨shapes, found, Draft.isWritten_of_opening lines spelled rfl fun statement member => ?_⟩
  rcases List.mem_append.mp member with inside | last
  · rcases List.mem_cons.mp inside with rfl | declared
    · rfl
    · exact (ctx.inert_declaration group declared).1
  · rw [List.mem_singleton.mp last]
    rfl

theorem arraySetter_mem_subroutines (free : ctx.options.dialect = .free) {v : Variable}
    (array : v ∈ ctx.inventory.arrays) (isDynamic : v.isDynamic = true) :
    ctx.arraySetter v ∈ ctx.subroutines := by
  unfold subroutines binders
  rw [free]
  refine List.mem_append_right _ (List.mem_append_right _ (List.mem_flatMap.mpr ⟨v, array, ?_⟩))
  rw [arraySubroutines, if_pos isDynamic]
  exact List.mem_cons_self

/-- **Names of shapes in scope.** For every interface, and externals that are indexes of any scalars, in
free form: the binder of a dynamic array, once it is written, makes each group known once, its own last,
and among them the group of every scalar that a name in its shape stands for. A group module, once it is
written, makes known, after the modules of its record types, each group once and never itself, and among
them every other group that has a scalar which a name in the shape of one of its static arrays stands
for, whether the host sees the array or not. A name stands for the last scalar of the name in the first
table that has one, the module's own before those of the externals. A source that is written has all
these binders and group modules. -/
theorem shapeNames_inScope (interface : Interface) (options : Options) (types : TypeTable)
    (published : List (String × List Variable)) (free : options.dialect = .free) :
    let externals := published.map fun table => ScalarIndex.ofScalars table.1 table.2
    let ctx : Context := { inventory := .ofInterface interface, options, types, externals }
    let tables := interface.visibleVariables.filter Variable.isScalar :: published.map Prod.snd
    (∀ v ∈ interface.visibleVariables, v.isScalar = false → v.dynamic = true → ∀ text,
      (layOutStatements .free (ctx.arraySetter v.annotate).statements).finish = .ok text →
      ∃ uses, Draft.IsWritten (ctx.arraySetter v.annotate).statements .free text
          (headLine .free (ctx.foreignSymbol "setpointer" v.name) ["p__", "cobj__", "dims__"]) uses ∧
        BinderUses tables v uses) ∧
    (∀ group ∈ ctx.inventory.groupNames, ∀ text,
      (layOutStatements .free (ctx.groupModule group).statements).finish = .ok text →
      ∃ shapes, Draft.IsWritten (ctx.groupModule group).statements .free text ("MODULE " ++ group)
          ((ctx.groupModule group).recordModules ++ shapes) ∧
        ModuleUses tables interface group shapes) ∧
    (∀ source, ctx.linkageDraft.finish = .ok source →
      ∀ v ∈ interface.visibleVariables, v.isScalar = false → v.dynamic = true →
      ∃ before text after, source = before ++ text ++ after ∧
        (layOutStatements .free (ctx.arraySetter v.annotate).statements).finish = .ok text) ∧
    (∀ source, ctx.modulesDraft.finish = .ok source → ∀ group ∈ ctx.inventory.groupNames,
      ∃ before text after, source = before ++ text ++ after ∧
        (layOutStatements .free (ctx.groupModule group).statements).finish = .ok text) := by
  intro externals ctx tables
  have same : ctx.scope.tables = (interface.visibleVariables.filter Variable.isScalar).map
      Variable.annotate :: published.map Prod.snd := by
    show (interface.visibleVariables.map Variable.annotate).filter Variable.isScalar ::
      externals.map ScalarIndex.scalars = _
    rw [List.map_map, List.filter_map]
    rfl
  have indexed : ctx.scope.IsIndexed := by
    refine ⟨ctx.inventory.dictionary_eq, fun index listed => ?_⟩
    obtain ⟨table, -, rfl⟩ := List.mem_map.mp listed
    rfl
  refine ⟨?_, ?_, ?_, ?_⟩
  · intro v _ _ _ text done
    obtain ⟨uses, found, written⟩ := isWritten_arraySetter done
    have known := binderUses_arrayGroups indexed found
    rw [same] at known
    exact ⟨uses, written, known.of_annotate⟩
  · intro group _ text done
    obtain ⟨shapes, found, written⟩ := isWritten_groupModule done
    have known := moduleUses_shapeGroups rfl indexed found
    rw [same] at known
    exact ⟨shapes, written, known.of_annotate⟩
  · intro source done v declared isArray isDynamic
    have array : v.annotate ∈ ctx.inventory.arrays :=
      Inventory.mem_arrays.mpr ⟨v, declared, isArray, rfl⟩
    have known := v.isDynamic_annotate.trans isDynamic
    rw [linkageDraft, show ctx.options.dialect = .free from free] at done
    exact exists_part_of_finish (arraySetter_mem_subroutines free array known) done
  · intro source done group listed
    have modules : ctx.groupModules = ctx.inventory.groupNames.map ctx.groupModule := by
      unfold groupModules
      rw [show ctx.options.dialect = .free from free]
    rw [modulesDraft, modules, show ctx.options.dialect = .free from free] at done
    exact exists_part_of_finish (List.mem_map_of_mem listed) done

/-- A dynamic array whose shape names a scalar of another group, one of its own and one of another
module. -/
def timeSeries : Variable :=
  { Variable.array "hist" .real "hist" [⟨"1", "n"⟩, ⟨"basetime", "nt"⟩, ⟨"1", "N"⟩] with
    dynamic := true }

/-- The array with its scalars, and a static array of its group that is hidden. -/
def seriesInterface : Interface where
  module := "wxy"
  declarations :=
    [.variable (Variable.scalar "n" .integer "consts"),
     .variable (Variable.scalar "nt" .integer "hist"),
     .variable timeSeries]
  hidden := [Variable.array "work" .real "hist" [⟨"1", "nt"⟩, ⟨"0", "basetime"⟩]]

/-- The text of the binder. -/
def seriesBinder : String :=
  "SUBROUTINE wxysetpointerhist(p__,cobj__,dims__)\n  USE consts\n  USE times\n  USE hist\n" ++
    "  integer(8):: cobj__\n  integer(8):: dims__(3)\n" ++
    "  real(kind=8),target::p__(n,basetime:nt,n)\n  hist => p__\n  return\nend\n"

/-- The text of the group module. -/
def seriesGroup : String :=
  "MODULE hist\n  USE times\n  SAVE\n  integer(kind=8)::nt\n" ++
    "  real(kind=8),pointer::hist(:,:,:)\n  real(kind=8)::work(nt,0:basetime)\nEND MODULE hist\n"

/-- The group of the other module is made known to the binder and to the group module. -/
theorem shapeNames_inScope_series :
    let published := [("clock", [Variable.scalar "basetime" .integer "times"])]
    let ctx : Context :=
      { inventory := .ofInterface seriesInterface
        externals := published.map fun table => ScalarIndex.ofScalars table.1 table.2 }
    let tables :=
      seriesInterface.visibleVariables.filter Variable.isScalar :: published.map Prod.snd
    (∃ source before after uses, ctx.linkageDraft.finish = .ok source ∧
      source = before ++ seriesBinder ++ after ∧
      Draft.IsWritten (ctx.arraySetter timeSeries.annotate).statements .free seriesBinder
        "SUBROUTINE wxysetpointerhist(p__,cobj__,dims__)" uses ∧
      BinderUses tables timeSeries uses ∧ "times" ∈ uses) ∧
    ∃ source before after shapes, ctx.modulesDraft.finish = .ok source ∧
      source = before ++ seriesGroup ++ after ∧
      Draft.IsWritten (ctx.groupModule "hist").statements .free seriesGroup "MODULE hist"
        ((ctx.groupModule "hist").recordModules ++ shapes) ∧
      ModuleUses tables seriesInterface "hist" shapes ∧ "times" ∈ shapes := by
  intro published ctx tables
  obtain ⟨binders, modules, allBinders, allModules⟩ :=
    shapeNames_inScope seriesInterface {} .standard published rfl
  have stands : owner? tables "basetime" = some (Variable.scalar "basetime" .integer "times") := by
    decide +kernel
  have declared : timeSeries ∈ seriesInterface.visibleVariables := by decide +kernel
  have only {found : Except GenerationError String} {text spelled : String} (done : found = .ok text)
      (same : found.toOption = some spelled) : text = spelled := by
    rw [done] at same
    exact Option.some.inj same
  constructor
  · have succeeds : ctx.linkageDraft.finish.toOption.isSome := by decide +kernel
    obtain ⟨source, done⟩ := exists_ok_of_isSome succeeds
    obtain ⟨before, text, after, parted, here⟩ := allBinders source done timeSeries declared rfl rfl
    obtain ⟨uses, written, inScope⟩ := binders timeSeries declared rfl rfl text here
    obtain ⟨scalar, found, listed⟩ := inScope.inScope "basetime" (by decide +kernel)
    obtain rfl := Option.some.inj (found.symm.trans stands)
    obtain rfl : text = seriesBinder := only here (by decide +kernel)
    have head : headLine .free (ctx.foreignSymbol "setpointer" timeSeries.name)
        ["p__", "cobj__", "dims__"] = "SUBROUTINE wxysetpointerhist(p__,cobj__,dims__)" := by
      decide +kernel
    exact ⟨source, before, after, uses, done, parted, head ▸ written, inScope, listed⟩
  · have succeeds : ctx.modulesDraft.finish.toOption.isSome := by decide +kernel
    have named : "hist" ∈ ctx.inventory.groupNames := by decide +kernel
    obtain ⟨source, done⟩ := exists_ok_of_isSome succeeds
    obtain ⟨before, text, after, parted, here⟩ := allModules source done "hist" named
    obtain ⟨shapes, written, inScope⟩ := modules "hist" named text here
    have static : seriesInterface.HasStatic "hist"
        (Variable.array "work" .real "hist" [⟨"1", "nt"⟩, ⟨"0", "basetime"⟩]) :=
      ⟨Or.inr (by decide +kernel), rfl, rfl, rfl⟩
    obtain ⟨scalar, found, listed⟩ := inScope.inScope _ static "basetime" (by decide +kernel)
    obtain rfl := Option.some.inj (found.symm.trans stands)
    obtain rfl : text = seriesGroup := only here (by decide +kernel)
    refine ⟨source, before, after, shapes, done, parted, written, inScope, ?_⟩
    exact listed.resolve_left (by decide)

end Context

end ForeignGlue
