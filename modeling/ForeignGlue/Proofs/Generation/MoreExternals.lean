/-
**More external modules.**

A name is looked up in the indexes of external modules in their order, so indexes that come last are
tried only for names that nothing before them has. What is generated without a failure is therefore
generated with them as well:

* `Scope.keeps_resolve`: a name that resolves does so in the same way;
* `Context.keeps_itemsAfterExternals`, `Context.keeps_linkageDraft`, `Context.keeps_modulesDraft`: every
  part of the sources that can be written stays as it is;
* `Generator.generate_including`: a generated module gains the declarations of the new tables after
  those it had, and nothing else changes.
-/

import ForeignGlue.Proofs.CSource.Layout
import ForeignGlue.Proofs.Generation.Demand
import ForeignGlue.Proofs.Generation.SeparateModules

namespace ForeignGlue

open ForeignGlue.Source
open ForeignGlue.Text

/-! ### Computations that still succeed -/

/-- The second computation gives the result of the first one, if that succeeds. -/
def Keeps {α : Type} (first second : Except GenerationError α) : Prop :=
  ∀ value, first = .ok value → second = .ok value

namespace Keeps

variable {α β : Type} {first second : Except GenerationError α}

theorem refl (outcome : Except GenerationError α) : Keeps outcome outcome := fun _ => id

/-- What is done next still succeeds if each continuation does. -/
theorem bind {next later : α → Except GenerationError β} (keeps : Keeps first second)
    (each : ∀ value, Keeps (next value) (later value)) : Keeps (first >>= next) (second >>= later) := by
  intro result done
  obtain ⟨value, given, done⟩ := bind_eq_ok_iff.mp done
  exact bind_eq_ok_iff.mpr ⟨value, keeps value given, each value result done⟩

theorem map (change : α → β) (keeps : Keeps first second) :
    Keeps (first.map change) (second.map change) := by
  intro result done
  obtain ⟨value, given, same⟩ := map_eq_ok_iff.mp done
  exact map_eq_ok_iff.mpr ⟨value, keeps value given, same⟩

end Keeps

/-! ### Drafts that are still written -/

namespace Source

namespace Draft

variable {α β : Type}

/-- The second draft is the first one, if nothing in that fails. -/
def Keeps (first second : Draft α) : Prop :=
  ∀ pieces, first = .ofList pieces → second = .ofList pieces

namespace Keeps

variable {first second third fourth : Draft α}

theorem refl (draft : Draft α) : Draft.Keeps draft draft := fun _ => id

theorem append (keeps : Draft.Keeps first second) (keepsToo : Draft.Keeps third fourth) :
    Draft.Keeps (first ++ third) (second ++ fourth) := by
  intro pieces spelled
  obtain ⟨before, after, rfl, isFirst, isThird⟩ := List.append_eq_map_iff.mp spelled
  rw [keeps before isFirst.symm, keepsToo after isThird.symm]
  exact List.map_append.symm

theorem flatMap {items : List β} {draft later : β → Draft α}
    (each : ∀ item ∈ items, Draft.Keeps (draft item) (later item)) :
    Draft.Keeps (items.flatMap draft) (items.flatMap later) := by
  induction items with
  | nil => exact .refl []
  | cons item items ih =>
      exact (each item List.mem_cons_self).append
        (ih fun other member => each other (List.mem_cons_of_mem _ member))

/-- A draft of a single piece. -/
theorem outcome {result later : Except GenerationError α} (keeps : ForeignGlue.Keeps result later) :
    Draft.Keeps [result] [later] := by
  intro pieces spelled
  obtain ⟨value, rest, rfl, given, nothing⟩ := List.map_eq_cons_iff.mp spelled.symm
  rw [keeps value given.symm, List.map_eq_nil_iff.mp nothing]
  rfl

theorem map {items : List β} {result later : β → Except GenerationError α}
    (each : ∀ item ∈ items, ForeignGlue.Keeps (result item) (later item)) :
    Draft.Keeps (items.map result) (items.map later) := by
  rw [List.map_eq_flatMap, List.map_eq_flatMap]
  exact .flatMap fun item member => .outcome (each item member)

/-- What has failed is not there to be kept. -/
theorem failed (error : GenerationError) (draft : Draft α) : Draft.Keeps [.error error] draft := by
  intro pieces spelled
  obtain ⟨value, rest, -, given, -⟩ := List.map_eq_cons_iff.mp spelled.symm
  cases given

/-- Pieces that are worked on further, where a failure stays one. -/
theorem worked {work : Except GenerationError α → Except GenerationError β}
    (keeps : Draft.Keeps first second) (fails : ∀ error, work (.error error) = .error error) :
    Draft.Keeps (first.map work) (second.map work) := by
  intro pieces spelled
  suffices whole : ∃ earlier, first = .ofList earlier by
    obtain ⟨earlier, rfl⟩ := whole
    rw [keeps earlier rfl]
    exact spelled
  clear keeps
  induction first generalizing pieces with
  | nil => exact ⟨[], rfl⟩
  | cons piece draft ih =>
      obtain ⟨value, rest, rfl, given, others⟩ := List.map_eq_cons_iff.mp spelled.symm
      obtain ⟨earlier, rfl⟩ := ih rest others.symm
      cases piece with
      | error error =>
          rw [fails] at given
          cases given
      | ok start => exact ⟨start :: earlier, rfl⟩

/-- The lines of a text, with their ends. -/
theorem endLines {first second : Draft String} (keeps : Draft.Keeps first second) :
    Draft.Keeps (endLines first) (endLines second) :=
  keeps.worked fun _ => rfl

/-- Statements over their lines. -/
theorem layOutStatements (dialect : Dialect) {first second : Draft Statement}
    (keeps : Draft.Keeps first second) :
    Draft.Keeps (layOutStatements dialect first) (layOutStatements dialect second) :=
  keeps.worked fun _ => rfl

/-- All pieces together. -/
theorem collect (keeps : Draft.Keeps first second) :
    ForeignGlue.Keeps (ForeignGlue.collect first) (ForeignGlue.collect second) := by
  intro values done
  exact collect_eq_ok_iff.mpr (keeps values (collect_eq_ok_iff.mp done))

/-- **The text of a draft that is still written.** -/
theorem finish {first second : Draft String} (keeps : Draft.Keeps first second) :
    ForeignGlue.Keeps first.finish second.finish := by
  rw [finish_eq_map_collect, finish_eq_map_collect]
  exact keeps.collect.map _

end Keeps

/-- The lines of a function, from those of its body. -/
theorem Keeps.function (lead name tail : String) {body later : Draft String}
    (keeps : Draft.Keeps body later) :
    Draft.Keeps (Item.lines (.definition { lead, name, tail, body := braced body }))
      (Item.lines (.definition { lead, name, tail, body := braced later })) :=
  .append (.append (.refl [.ok _, .ok _]) keeps) (.refl [.ok _])

theorem finish_append {first second : Draft String} {start rest : String}
    (started : first.finish = .ok start) (finished : second.finish = .ok rest) :
    (first ++ second).finish = .ok (start ++ rest) := by
  obtain ⟨before, rfl, rfl⟩ := finish_eq_ok_iff.mp started
  obtain ⟨after, rfl, rfl⟩ := finish_eq_ok_iff.mp finished
  exact finish_eq_ok_iff.mpr ⟨before ++ after, List.map_append.symm, String.join_append.symm⟩

end Draft

/-- Items are laid out one by one. -/
theorem layOutItems_append (first second : List Item) :
    layOutItems (first ++ second) = layOutItems first ++ layOutItems second := by
  unfold layOutItems endLines
  rw [List.flatMap_append, List.map_append]

end Source

/-! ### Bounds and shape texts -/

namespace Scope

variable (scope : Scope) (more : List ScalarIndex)

/-- The scope in which more indexes are tried, after those that are there. -/
def including : Scope :=
  { scope with externals := scope.externals ++ more }

/-- **A name that resolves** still does, to the same slot. -/
theorem keeps_resolve (name : String) :
    Keeps (scope.resolve name) ((scope.including more).resolve name) := by
  intro slot found
  unfold resolve including at *
  cases own : scope.dictionary.get? (lower name) with
  | some mine =>
      rw [own] at found
      exact found
  | none =>
      rw [own] at found
      dsimp only at found ⊢
      rw [List.findSome?_append]
      cases searched : scope.externals.findSome? fun index =>
          (index.slot? name).map (Slot.external index) with
      | none =>
          rw [searched] at found
          cases found
      | some other =>
          rw [searched] at found
          exact found

/-- A token that is rendered is rendered in the same way, for more names resolve and none otherwise. -/
theorem keeps_piece (binding : Binding) (token : Expression.Token) :
    Keeps (scope.piece binding token) ((scope.including more).piece binding token) := by
  unfold piece
  cases token.kind with
  | name =>
      dsimp only
      cases binding token.text with
      | some label => exact .refl _
      | none => exact (scope.keeps_resolve more token.text).map _
  | number => exact .refl _
  | other => exact .refl _

theorem keeps_pieces (binding : Binding) (expression : String) :
    Keeps (scope.pieces binding expression) ((scope.including more).pieces binding expression) :=
  (Draft.Keeps.map fun token _ => scope.keeps_piece more binding token).collect

/-- The extent of a bound. -/
theorem keeps_extent (binding : Binding) (bound : Bound) :
    Keeps (scope.extent binding bound) ((scope.including more).extent binding bound) :=
  (scope.keeps_pieces more binding bound.high).bind fun _ =>
    (scope.keeps_pieces more binding bound.low).bind fun _ => .refl _

/-- The groups that a shape mentions. -/
theorem keeps_groupsIn (shape : String) :
    Keeps (scope.groupsIn shape) ((scope.including more).groupsIn shape) :=
  (Draft.Keeps.map fun name _ => scope.keeps_resolve more name).collect.bind fun _ => .refl _

end Scope

/-! ### Sources -/

namespace Context

variable (ctx : Context) (more : List ScalarIndex)

/-- The context with more external modules, after those that are there. -/
def including : Context :=
  { ctx with externals := ctx.externals ++ more }

theorem options_including : (ctx.including more).options = ctx.options := rfl

/-- The extents that are known of an argument. -/
theorem keeps_knownExtents (routine : Routine) (argument : Argument) :
    Keeps (ctx.knownExtents routine argument)
      ((ctx.including more).knownExtents routine argument) := by
  unfold knownExtents
  refine (Draft.Keeps.map fun ⟨dimension, bound⟩ _ => ?_).collect
  exact (ctx.scope.keeps_extent more routine.binding bound).bind fun _ => .refl _

/-- The lines of a check, over the same extents. -/
theorem keeps_lines (check : ShapeCheck) (routine : Routine) {scope : Scope}
    {extents : Except GenerationError (List KnownExtent)} (keeps : Keeps check.extents extents) :
    Draft.Keeps (check.lines routine scope)
      (ShapeCheck.lines { check with extents } routine (scope.including more)) := by
  unfold ShapeCheck.lines
  refine .append (.refl _) ?_
  cases given : check.extents with
  | error error => exact .failed error _
  | ok known =>
      rw [keeps known given]
      exact .refl _

theorem keeps_shapeCheckLines (routine : Routine) :
    Draft.Keeps (ctx.shapeCheckLines routine) ((ctx.including more).shapeCheckLines routine) := by
  unfold shapeCheckLines shapeChecks
  dsimp only
  rw [List.isEmpty_map, List.isEmpty_map]
  split
  · exact .refl _
  · refine Draft.Keeps.append (.append (.refl _) ?_) (.refl _)
    rw [List.flatMap_map, List.flatMap_map]
    exact .flatMap fun ⟨index, argument⟩ _ =>
      keeps_lines more ⟨index, argument.rank, _⟩ routine (ctx.keeps_knownExtents more routine argument)

/-- What sets the shape of an array. -/
theorem keeps_shapeStores (slot : Nat) (array : Variable) :
    Keeps (ctx.shapeStores slot array) ((ctx.including more).shapeStores slot array) := by
  unfold shapeStores
  refine (Draft.Keeps.map fun ⟨dimension, bound⟩ _ => ?_).collect
  exact (ctx.scope.keeps_extent more .none bound).bind fun _ => .refl _

theorem keeps_storeLines (indent : String) (slot : Nat) (array : Variable) :
    Draft.Keeps (ctx.storeLines indent slot array)
      ((ctx.including more).storeLines indent slot array) := by
  unfold storeLines
  cases given : ctx.shapeStores slot array with
  | error error => exact .failed error _
  | ok stores =>
      rw [ctx.keeps_shapeStores more slot array stores given]
      exact .refl _

/-! #### The host source -/

/-- Items before the declarations of external tables. -/
def itemsBeforeExternals : List Item :=
  ctx.prototypeItems ++ ctx.binderPrototypeItems

/-- Items after the declarations of external tables. -/
def itemsAfterExternals : List Item :=
  tableItems "" "Fortranscalar" (ctx.module ++ "nscalars") ctx.scalarTable
      (ctx.package.scalars.map ScalarDescriptor.row) ++ ctx.arrayTableItems ++
    ctx.wrappersItems ++ ctx.methodTableItems ++ ctx.staticShapeItems ++ ctx.dynamicShapeItems ++
    ctx.binderItems ++ ctx.moduleInitItems

/-- The host source, with the tables of externals in its middle. -/
theorem hostItems_eq :
    ctx.hostItems = ctx.itemsBeforeExternals ++ ctx.externalTableItems ++ ctx.itemsAfterExternals := by
  unfold hostItems scalarTableItems itemsBeforeExternals itemsAfterExternals
  simp only [List.append_assoc]

/-- **All wrappers** are still written, and as they were. -/
theorem keeps_wrappersItems :
    Draft.Keeps (ctx.wrappersItems.flatMap Item.lines)
      ((ctx.including more).wrappersItems.flatMap Item.lines) := by
  unfold wrappersItems
  rw [List.flatMap_append, List.flatMap_append, List.flatMap_assoc, List.flatMap_assoc]
  refine .append (.flatMap fun routine _ => ?_) (.refl _)
  have body : Draft.Keeps (ctx.wrapperBody routine) ((ctx.including more).wrapperBody routine) :=
    .append (.append (.refl _) (ctx.keeps_shapeCheckLines more routine)) (.refl _)
  exact .append (.refl _) (.append (.function _ _ _ body) (.refl []))

theorem keeps_staticShapeItems :
    Draft.Keeps (ctx.staticShapeItems.flatMap Item.lines)
      ((ctx.including more).staticShapeItems.flatMap Item.lines) := by
  refine .append (.function _ _ _ ?_) (.refl _)
  exact .flatMap fun numbered _ => ctx.keeps_storeLines more "  " numbered.slot numbered.array

theorem keeps_memberShapeLines (member : NumberedArray) :
    Draft.Keeps (ctx.memberShapeLines member) ((ctx.including more).memberShapeLines member) :=
  .append (.append (.refl [.ok _]) (ctx.keeps_storeLines more _ member.slot member.array)) (.refl _)

/-- The functions that set the shapes of dynamic arrays. -/
theorem keeps_dynamicShapeItems :
    Draft.Keeps (ctx.dynamicShapeItems.flatMap Item.lines)
      ((ctx.including more).dynamicShapeItems.flatMap Item.lines) := by
  unfold dynamicShapeItems
  rw [List.flatMap_append, List.flatMap_append, List.flatMap_map, List.flatMap_map]
  refine .append (.flatMap fun group _ => .function _ _ _ ?_) (.refl _)
  refine .append (.append (.refl [.ok _]) ?_) (.refl _)
  exact .flatMap fun member _ => ctx.keeps_memberShapeLines more member

theorem keeps_itemsAfterExternals :
    Draft.Keeps (ctx.itemsAfterExternals.flatMap Item.lines)
      ((ctx.including more).itemsAfterExternals.flatMap Item.lines) := by
  unfold itemsAfterExternals
  simp only [List.flatMap_append]
  have wrappers := ctx.keeps_wrappersItems more
  have statics := ctx.keeps_staticShapeItems more
  have dynamics := ctx.keeps_dynamicShapeItems more
  exact ((((((Draft.Keeps.refl _).append (.refl _)).append wrappers).append (.refl _)).append
    statics).append dynamics |>.append (.refl _)).append (.refl _)

/-! #### The foreign source -/

theorem keeps_arrayGroups (v : Variable) :
    Keeps (ctx.arrayGroups v) ((ctx.including more).arrayGroups v) :=
  (ctx.scope.keeps_groupsIn more v.shape).bind fun _ => .refl _

/-- The subroutine that sets an array, with the groups of its shape. -/
theorem keeps_arraySetter (v : Variable) :
    Draft.Keeps (ctx.arraySetter v).statements ((ctx.including more).arraySetter v).statements := by
  refine .append (.refl [.ok _]) ?_
  unfold arraySetter
  dsimp only
  cases given : ctx.arrayGroups v with
  | error error => exact .failed error _
  | ok groups =>
      rw [ctx.keeps_arrayGroups more v groups given]
      exact .refl _

theorem keeps_arraySubroutines (v : Variable) :
    Draft.Keeps ((ctx.arraySubroutines v).flatMap Subroutine.statements)
      (((ctx.including more).arraySubroutines v).flatMap Subroutine.statements) := by
  unfold arraySubroutines
  by_cases dynamic : v.isDynamic = true
  · rw [if_pos dynamic, if_pos dynamic]
    exact .append (ctx.keeps_arraySetter more v) (.refl _)
  · rw [if_neg dynamic, if_neg dynamic]
    exact .refl _

/-- **All subroutines** are still written, and as they were. -/
theorem keeps_linkageStatements :
    Draft.Keeps ctx.linkageStatements (ctx.including more).linkageStatements := by
  unfold linkageStatements subroutines
  rw [options_including, List.flatMap_append, List.flatMap_append]
  refine .append (.refl _) ?_
  cases ctx.options.dialect with
  | free =>
      unfold binders
      rw [List.flatMap_append, List.flatMap_append]
      refine .append (.refl _) ?_
      rw [List.flatMap_assoc, List.flatMap_assoc]
      exact .flatMap fun v _ => ctx.keeps_arraySubroutines more v
  | fixed => exact .refl _

theorem keeps_linkageDraft : Draft.Keeps ctx.linkageDraft (ctx.including more).linkageDraft :=
  (ctx.keeps_linkageStatements more).layOutStatements _

theorem keeps_shapeGroups (group : String) :
    Keeps (ctx.shapeGroups group) ((ctx.including more).shapeGroups group) :=
  (Draft.Keeps.map fun v _ => ctx.scope.keeps_groupsIn more v.shape).collect.bind fun _ => .refl _

/-- The module of a group, with the groups of the shapes in it. -/
theorem keeps_groupModule (group : String) :
    Draft.Keeps (ctx.groupModule group).statements
      ((ctx.including more).groupModule group).statements := by
  refine .append (.refl _) ?_
  unfold groupModule
  dsimp only
  cases given : ctx.shapeGroups group with
  | error error => exact .failed error _
  | ok groups =>
      rw [ctx.keeps_shapeGroups more group groups given]
      exact .refl _

/-- **All modules of groups** are still written, and as they were. -/
theorem keeps_modulesDraft : Draft.Keeps ctx.modulesDraft (ctx.including more).modulesDraft := by
  refine Draft.Keeps.layOutStatements _ ?_
  unfold groupModules
  rw [options_including]
  cases ctx.options.dialect with
  | free =>
      rw [List.flatMap_map, List.flatMap_map]
      exact .flatMap fun group _ => ctx.keeps_groupModule more group
  | fixed => exact .refl _

theorem keeps_groupSource : Keeps ctx.groupSource (ctx.including more).groupSource := by
  unfold groupSource
  rw [options_including]
  by_cases writes : ctx.options.writeModules = true
  · rw [if_pos writes, if_pos writes]
    exact (ctx.keeps_modulesDraft more).finish
  · rw [if_neg writes, if_neg writes]
    exact .refl _

/-- The lines that declare the scalar tables of external modules. -/
def externalLines (externals : List ScalarIndex) : String :=
  String.join (externals.map fun index => "extern Fortranscalar " ++ index.module ++ "_fscalars[];\n")

theorem externalLines_append (externals : List ScalarIndex) :
    externalLines (externals ++ more) = externalLines externals ++ externalLines more := by
  unfold externalLines
  rw [List.map_append, String.join_append]

/-- The declarations of the external tables never fail. -/
theorem finish_externalTableItems :
    (layOutItems ctx.externalTableItems).finish = .ok (externalLines ctx.externals) := by
  refine Draft.finish_eq_ok_iff.mpr ⟨_, ?_, rfl⟩
  unfold externalTableItems layOutItems Source.endLines Draft.ofList
  rw [List.flatMap_map, List.map_flatMap, List.map_map, List.map_eq_flatMap]
  refine List.flatMap_congr fun index _ => ?_
  have line : s!"extern Fortranscalar {index.tableName}[];" ++ "\n" =
      "extern Fortranscalar " ++ index.module ++ "_fscalars[];\n" := by
    have cut : "_fscalars[];\n" = "_fscalars" ++ "[];" ++ "\n" := rfl
    rw [cut]
    simp only [ScalarIndex.tableName, toString, String.append_assoc]
  exact congrArg (fun text => [Except.ok text]) line

/-- **The host source** with more external modules: their declarations follow those that are there. -/
theorem hostSource_including {host : String} (done : ctx.hostSource = .ok host) :
    ∃ before after, (layOutItems ctx.itemsBeforeExternals).finish = .ok before ∧
      host = before ++ externalLines ctx.externals ++ after ∧
      ∀ more, (ctx.including more).hostSource =
        .ok (before ++ externalLines ctx.externals ++ externalLines more ++ after) := by
  unfold hostSource at done
  rw [hostItems_eq, layOutItems_append, layOutItems_append] at done
  obtain ⟨_, after, started, last, rfl⟩ := CSource.finish_append_eq_ok done
  obtain ⟨before, declared, first, externals, rfl⟩ := CSource.finish_append_eq_ok started
  rw [finish_externalTableItems] at externals
  obtain rfl := Except.ok.inj externals
  refine ⟨before, after, first, rfl, fun more => ?_⟩
  have earlier : (layOutItems (ctx.including more).itemsBeforeExternals).finish = .ok before := first
  have later : (layOutItems (ctx.including more).itemsAfterExternals).finish = .ok after :=
    (ctx.keeps_itemsAfterExternals more).endLines.finish after last
  have tables := (ctx.including more).finish_externalTableItems
  unfold hostSource
  rw [hostItems_eq, layOutItems_append, layOutItems_append,
    Draft.finish_append (Draft.finish_append earlier tables) later]
  show Except.ok (before ++ externalLines (ctx.externals ++ more) ++ after) = _
  rw [externalLines_append, ← String.append_assoc]

end Context

/-! ### Generated modules -/

namespace Generator

/-- **More external modules change nothing that resolved.** A module that is generated is generated
with more external modules as well: its foreign source and its index stay, and in its host source the
declarations of their scalar tables follow those that are there, in order. -/
theorem generate_including (options : Options) (types : TypeTable) (externals : List ScalarIndex)
    (interface : Interface) {generated : GeneratedModule}
    (done : generate { options, types, externals } interface = .ok generated) :
    ∃ before after,
      (layOutItems (context { options, types, externals } interface).itemsBeforeExternals).finish =
        .ok before ∧
      generated.hostSource = before ++ Context.externalLines externals ++ after ∧
      ∀ more, ∃ extended,
        generate { options, types, externals := externals ++ more } interface = .ok extended ∧
        extended.foreignSource = generated.foreignSource ∧ extended.index = generated.index ∧
        extended.hostSource =
          before ++ Context.externalLines externals ++ Context.externalLines more ++ after := by
  rw [generate_eq_bind _ rfl] at done
  obtain ⟨host, hosted, done⟩ := bind_eq_ok_iff.mp done
  obtain ⟨subroutines, linked, done⟩ := bind_eq_ok_iff.mp done
  obtain ⟨modules, grouped, done⟩ := bind_eq_ok_iff.mp done
  obtain rfl := Except.ok.inj done
  obtain ⟨before, after, first, rfl, extended⟩ := Context.hostSource_including _ hosted
  refine ⟨before, after, first, rfl, fun more => ?_⟩
  let ctx := context { options, types, externals } interface
  have wider : context { options, types, externals := externals ++ more } interface =
      ctx.including more := rfl
  rw [generate_eq_bind _ rfl, wider, extended more, (ctx.keeps_linkageDraft more).finish _ linked,
    ctx.keeps_groupSource more _ grouped]
  exact ⟨_, rfl, rfl, rfl, rfl⟩

/-- A static array whose extent is a scalar of another module. -/
def sizedElsewhere : Interface where
  module := "wxy"
  declarations := [.variable (Variable.array "a" .real "fields" [⟨"1", "n"⟩])]

/-- The index of a module that has `n`. -/
def gridIndex : ScalarIndex :=
  .ofScalars "grid" [Variable.scalar "n" .integer "sizes"]

/-- The index of a module that has `n` in another slot. -/
def meshIndex : ScalarIndex :=
  .ofScalars "mesh" [Variable.scalar "m" .integer "sizes", Variable.scalar "n" .integer "sizes"]

/-- A second module that has the name is declared, and its scalar is not used. -/
theorem generate_including_mesh :
    ∃ generated extended before after,
      generate { externals := [gridIndex] } sizedElsewhere = .ok generated ∧
      generate { externals := [gridIndex, meshIndex] } sizedElsewhere = .ok extended ∧
      extended.foreignSource = generated.foreignSource ∧ extended.index = generated.index ∧
      generated.hostSource = before ++ "extern Fortranscalar grid_fscalars[];\n" ++ after ∧
      extended.hostSource = before ++ "extern Fortranscalar grid_fscalars[];\n" ++
        "extern Fortranscalar mesh_fscalars[];\n" ++ after := by
  have succeeds : (generate { externals := [gridIndex] } sizedElsewhere).toOption.isSome := by
    decide +kernel
  obtain ⟨generated, done⟩ := exists_ok_of_isSome succeeds
  obtain ⟨before, after, -, host, extend⟩ := generate_including {} .standard [gridIndex] _ done
  obtain ⟨extended, generates, foreign, index, hostToo⟩ := extend [meshIndex]
  exact ⟨generated, extended, before, after, done, generates, foreign, index, host, hostToo⟩

end Generator

end ForeignGlue
