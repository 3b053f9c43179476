/-
**Modules before their uses.**

The foreign source of a module has a block for each group, in the order of the groups, and then the
subroutines. A compiler takes a `USE` only of a module that is complete by then.

* `Context.definedBeforeUse_iff`: every use of a group comes after its block exactly if each group
  that a block uses stands earlier in the order of the groups;
* `Generator.definedBeforeUse_generate_iff`: so it is in the source of a generated module.

The order of the groups is that of their first variables, and nothing makes it agree with what the
shapes name (`Generator.use_before_definition`).
-/

import ForeignGlue.Generation
import ForeignGlue.Proofs.Linkage.Slots
import ForeignGlue.Proofs.Source.Finished

namespace ForeignGlue

open ForeignGlue.Source

/-! ### Definitions and uses -/

namespace Source

/-- A module is defined in a list of statements, from its head to its end. -/
def Defines (statements : List Statement) (name : String) : Prop :=
  ∃ earlier body later,
    statements = earlier ++ (.moduleStart name :: body ++ [.moduleEnd name]) ++ later

/-- **Every use** of one of the named modules comes after its definition. -/
def DefinedBeforeUse (names : List String) (statements : List Statement) : Prop :=
  ∀ before name after, statements = before ++ .use name :: after → name ∈ names →
    Defines before name

/-- The module that a statement uses. -/
def Statement.used? : Statement → Option String
  | .use module => some module
  | _ => none

/-- The module that a statement is the end of. -/
def Statement.ended? : Statement → Option String
  | .moduleEnd name => some name
  | _ => none

theorem Defines.append_right {statements : List Statement} {name : String}
    (defined : Defines statements name) (more : List Statement) :
    Defines (statements ++ more) name := by
  obtain ⟨earlier, body, later, rfl⟩ := defined
  exact ⟨earlier, body, later ++ more, List.append_assoc _ _ _⟩

theorem Defines.moduleEnd_mem {statements : List Statement} {name : String}
    (defined : Defines statements name) : .moduleEnd name ∈ statements := by
  obtain ⟨earlier, body, later, rfl⟩ := defined
  simp

end Source

/-- A place in the items of several lists is a place in the items of one of them. -/
theorem exists_of_flatMap_eq {α β : Type} {items : List α} {f : α → List β} {x : β}
    {before after : List β} (split : items.flatMap f = before ++ x :: after) :
    ∃ front item back inner outer, items = front ++ item :: back ∧
      f item = inner ++ x :: outer ∧ before = front.flatMap f ++ inner := by
  induction items generalizing before with
  | nil => exact absurd split (by simp)
  | cons first items ih =>
      rw [List.flatMap_cons, List.append_eq_append_iff] at split
      rcases split with ⟨more, rfl, rest⟩ | ⟨more, inFirst, rest⟩
      · obtain ⟨front, item, back, inner, outer, rfl, here, rfl⟩ := ih rest
        exact ⟨first :: front, item, back, inner, outer, rfl, here, by simp⟩
      · cases more with
        | nil =>
            rw [List.append_nil] at inFirst
            have start : items.flatMap f = [] ++ x :: after := rest.symm
            obtain ⟨front, item, back, inner, outer, rfl, here, nothing⟩ := ih start
            refine ⟨first :: front, item, back, inner, outer, rfl, here, ?_⟩
            rw [List.flatMap_cons, List.append_assoc, ← nothing, List.append_nil, inFirst]
        | cons head more =>
            rw [List.cons_append, List.cons.injEq] at rest
            obtain ⟨rfl, -⟩ := rest
            exact ⟨[], first, items, before, more, rfl, inFirst, rfl⟩

/-! ### The blocks of the groups -/

namespace Context

/-- What the block of a group makes known: modules of record types, and groups that shapes name. -/
def Uses (ctx : Context) (group other : String) : Prop :=
  other ∈ (ctx.groupModule group).recordModules ∨
    ∃ groups, ctx.shapeGroups group = .ok groups ∧ other ∈ groups

/-- The statements of the blocks. -/
def blockStatements (ctx : Context) : List Statement :=
  Draft.statements (ctx.groupModules.flatMap GroupModule.statements)

/-- All statements of the foreign source: the blocks, then the subroutines. -/
def foreignStatements (ctx : Context) : List Statement :=
  ctx.blockStatements ++ Draft.statements ctx.linkageStatements

/-- A block: its head, the modules it uses, and what neither uses nor ends one, up to its end. -/
def IsBlock (ctx : Context) (group : String) (block : List Statement) : Prop :=
  ∃ (uses : List String) (inner : List Statement),
    block = .moduleStart group :: (uses.map .use ++ inner) ++ [.moduleEnd group] ∧
    (∀ other, other ∈ uses ↔ ctx.Uses group other) ∧
    ∀ statement ∈ inner, statement.used? = none ∧ statement.ended? = none

variable {ctx : Context} {group other : String} {block : List Statement}

theorem inert_declaration (ctx : Context) (group : String) {statement : Statement}
    (member : statement ∈ (ctx.groupModule group).declarations) :
    statement.used? = none ∧ statement.ended? = none := by
  unfold groupModule at member
  rcases List.mem_append.mp member with scalar | array
  · obtain ⟨v, -, rfl⟩ := List.mem_map.mp scalar
    exact ⟨rfl, rfl⟩
  · obtain ⟨v, -, declared⟩ := List.mem_flatMap.mp array
    unfold declareArray at declared
    by_cases dynamic : v.isDynamic = true
    · rw [if_pos dynamic, List.mem_singleton] at declared
      exact declared ▸ ⟨rfl, rfl⟩
    · rw [if_neg dynamic, List.mem_cons] at declared
      rcases declared with rfl | initial
      · exact ⟨rfl, rfl⟩
      · cases given : v.initializer with
        | none => rw [given] at initial; cases initial
        | some text =>
            rw [given] at initial
            exact List.mem_singleton.mp initial ▸ ⟨rfl, rfl⟩

/-- The statements of a group module, if nothing in it failed. -/
theorem statements_groupModule
    (clean : ∀ error, .error error ∉ (ctx.groupModule group).statements) :
    ∃ groups, ctx.shapeGroups group = .ok groups ∧
      Draft.statements (ctx.groupModule group).statements =
        .moduleStart group :: (((ctx.groupModule group).recordModules ++ groups).map .use ++
          .plain "  SAVE" :: (ctx.groupModule group).declarations) ++ [.moduleEnd group] := by
  cases shapes : ctx.shapeGroups group with
  | error error =>
      refine absurd ?_ (clean error)
      unfold GroupModule.statements
      rw [show (ctx.groupModule group).shapeGroups = .error error from shapes]
      simp
  | ok groups =>
      refine ⟨groups, rfl, ?_⟩
      unfold GroupModule.statements
      rw [show (ctx.groupModule group).shapeGroups = .ok groups from shapes]
      show Draft.statements (Draft.ofList [_] ++ Draft.ofList _ ++ Draft.ofList _) = _
      rw [Draft.statements_append, Draft.statements_append, Draft.statements_ofList,
        Draft.statements_ofList, Draft.statements_ofList]
      simp [groupModule]

/-- **The block of a group**, if nothing in it failed. -/
theorem isBlock_groupModule (clean : ∀ error, .error error ∉ (ctx.groupModule group).statements) :
    ctx.IsBlock group (Draft.statements (ctx.groupModule group).statements) := by
  obtain ⟨groups, shapes, spelled⟩ := statements_groupModule clean
  refine ⟨(ctx.groupModule group).recordModules ++ groups,
    .plain "  SAVE" :: (ctx.groupModule group).declarations, spelled, ?_, ?_⟩
  · intro other
    rw [List.mem_append, Uses]
    constructor
    · intro member
      exact member.imp_right fun found => ⟨groups, shapes, found⟩
    · intro used
      refine used.imp_right fun ⟨found, same, member⟩ => ?_
      rw [shapes] at same
      exact Except.ok.inj same ▸ member
  · intro statement member
    rcases List.mem_cons.mp member with rfl | declared
    · exact ⟨rfl, rfl⟩
    · exact ctx.inert_declaration group declared

namespace IsBlock

variable (isBlock : ctx.IsBlock group block)
include isBlock

theorem defines : Defines block group := by
  obtain ⟨uses, inner, rfl, -, -⟩ := isBlock
  exact ⟨[], uses.map .use ++ inner, [], by simp⟩

/-- A block ends no module but its own. -/
theorem eq_of_moduleEnd_mem (member : .moduleEnd other ∈ block) : other = group := by
  obtain ⟨uses, inner, rfl, -, inert⟩ := isBlock
  simp only [List.cons_append, List.append_assoc, List.mem_cons, List.mem_append, List.mem_map,
    reduceCtorEq, and_false, exists_false, false_or, List.not_mem_nil, or_false,
    Statement.moduleEnd.injEq] at member
  rcases member with inside | same
  · exact absurd (inert _ inside).2 (Option.some_ne_none other)
  · exact same

/-- What stands in a block as used is used by the group. -/
theorem uses_of_use_mem (member : .use other ∈ block) : ctx.Uses group other := by
  obtain ⟨uses, inner, rfl, used, inert⟩ := isBlock
  simp only [List.cons_append, List.append_assoc, List.mem_cons, List.mem_append, List.mem_map,
    reduceCtorEq, false_or, List.not_mem_nil, or_false, Statement.use.injEq,
    exists_eq_right] at member
  rcases member with among | inside
  · exact (used other).mp among
  · exact absurd (inert _ inside).1 (Option.some_ne_none other)

/-- A use stands before the end of its block. -/
theorem exists_use (used : ctx.Uses group other) :
    ∃ before after, block = before ++ .use other :: after ∧
      ∀ name, .moduleEnd name ∉ before := by
  obtain ⟨uses, inner, rfl, all, -⟩ := isBlock
  obtain ⟨front, back, rfl⟩ := List.append_of_mem ((all other).mpr used)
  refine ⟨.moduleStart group :: front.map .use, back.map .use ++ inner ++ [.moduleEnd group], ?_, ?_⟩
  · simp
  · simp

end IsBlock

/-! ### All blocks -/

section Blocks

variable {names : List String} {blocks : String → List Statement}
  (areBlocks : ∀ group ∈ names, ctx.IsBlock group (blocks group))
include areBlocks

theorem defines_flatMap (member : group ∈ names) : Defines (names.flatMap blocks) group := by
  obtain ⟨front, back, rfl⟩ := List.append_of_mem member
  obtain ⟨earlier, body, later, spelled⟩ := (areBlocks group member).defines
  refine ⟨front.flatMap blocks ++ earlier, body, later ++ back.flatMap blocks, ?_⟩
  rw [List.flatMap_append, List.flatMap_cons, spelled]
  simp only [List.append_assoc]

theorem mem_of_moduleEnd_mem (member : .moduleEnd group ∈ names.flatMap blocks) :
    group ∈ names := by
  obtain ⟨found, among, inside⟩ := List.mem_flatMap.mp member
  exact (areBlocks found among).eq_of_moduleEnd_mem inside ▸ among

/-- A use in a block, where the groups it needs stand earlier. -/
theorem defines_of_use_in_block {before after : List Statement}
    (ordered : ∀ group ∈ names, ∀ other ∈ names, ctx.Uses group other →
      names.idxOf other < names.idxOf group)
    (split : names.flatMap blocks = before ++ .use other :: after) (known : other ∈ names) :
    Defines before other := by
  obtain ⟨front, group, back, inner, outer, named, inBlock, rfl⟩ := exists_of_flatMap_eq split
  have among : group ∈ names := by rw [named]; simp
  have used : ctx.Uses group other := by
    refine (areBlocks group among).uses_of_use_mem ?_
    rw [inBlock]
    simp
  have earlier := ordered group among other known used
  have before : names.idxOf group ≤ front.length := by
    rw [named, List.idxOf_append]
    by_cases repeated : group ∈ front
    · rw [if_pos repeated]
      exact Nat.le_of_lt (List.idxOf_lt_length_of_mem repeated)
    · rw [if_neg repeated, List.idxOf_cons_self]
      omega
  have inFront : other ∈ front := by
    by_contra absent
    rw [named, List.idxOf_append, if_neg absent] at earlier
    rw [named] at before
    omega
  have frontBlocks : ∀ name ∈ front, ctx.IsBlock name (blocks name) := fun name member =>
    areBlocks name (by rw [named]; exact List.mem_append_left _ member)
  exact (defines_flatMap frontBlocks inFront).append_right inner

/-- A group that a block uses and that is defined by then stands earlier. -/
theorem idxOf_lt_of_definedBeforeUse {more : List Statement}
    (defined : DefinedBeforeUse names (names.flatMap blocks ++ more)) (among : group ∈ names)
    (known : other ∈ names) (used : ctx.Uses group other) :
    names.idxOf other < names.idxOf group := by
  obtain ⟨front, back, named, first⟩ := List.eq_append_cons_of_mem among
  obtain ⟨inner, outer, inBlock, noEnd⟩ := (areBlocks group among).exists_use used
  have split : names.flatMap blocks ++ more = (front.flatMap blocks ++ inner) ++
      .use other :: (outer ++ back.flatMap blocks ++ more) := by
    rw [named, List.flatMap_append, List.flatMap_cons, inBlock]
    simp only [List.append_assoc, List.cons_append]
  have ended := (defined _ other _ split known).moduleEnd_mem
  have inFront : other ∈ front := by
    rcases List.mem_append.mp ended with earlier | inside
    · have frontBlocks : ∀ name ∈ front, ctx.IsBlock name (blocks name) := fun name member =>
        areBlocks name (by rw [named]; exact List.mem_append_left _ member)
      exact mem_of_moduleEnd_mem frontBlocks earlier
    · exact absurd inside (noEnd other)
  rw [named, List.idxOf_append, List.idxOf_append, if_pos inFront, if_neg first,
    List.idxOf_cons_self]
  have := List.idxOf_lt_length_of_mem inFront
  omega

/-- **Definitions precede uses** in blocks, whatever follows them, exactly if each group that a block
uses stands earlier than the block. -/
theorem definedBeforeUse_iff (more : List Statement) :
    DefinedBeforeUse names (names.flatMap blocks ++ more) ↔
      ∀ group ∈ names, ∀ other ∈ names, ctx.Uses group other →
        names.idxOf other < names.idxOf group := by
  constructor
  · intro defined group among other known used
    exact idxOf_lt_of_definedBeforeUse areBlocks defined among known used
  · intro ordered before other after split known
    rcases List.append_eq_append_iff.mp split with ⟨between, rfl, -⟩ | ⟨rest, inBlocks, after_eq⟩
    · exact (defines_flatMap areBlocks known).append_right between
    · cases rest with
      | nil =>
          rw [List.append_nil] at inBlocks
          exact inBlocks ▸ defines_flatMap areBlocks known
      | cons head rest =>
          rw [List.cons_append, List.cons.injEq] at after_eq
          rw [← after_eq.1] at inBlocks
          exact defines_of_use_in_block areBlocks ordered inBlocks known

end Blocks

/-- The statements of the blocks in free form, block by block. -/
theorem blockStatements_eq (free : ctx.options.dialect = .free) :
    ctx.blockStatements = ctx.inventory.groupNames.flatMap fun group =>
      Draft.statements (ctx.groupModule group).statements := by
  unfold blockStatements groupModules Draft.statements
  rw [free, List.flatMap_map, List.filterMap_flatMap]

end Context

/-! ### Generated modules -/

namespace Generator

variable {generator : Generator} {interface : Interface} {generated : GeneratedModule}

/-- The two drafts that the foreign source is made of, where no code of record types is taken in. -/
theorem foreignSource_of_generate (writes : generator.options.writeModules = true)
    (plain : generator.records = RecordEmitter.none)
    (done : generator.generate interface = .ok generated) :
    ∃ modules subroutines, (generator.context interface).modulesDraft.finish = .ok modules ∧
      (generator.context interface).linkageDraft.finish = .ok subroutines ∧
      generated.foreignSource = modules ++ subroutines := by
  obtain ⟨host, -, done⟩ := bind_eq_ok_iff.mp done
  obtain ⟨records, recorded, done⟩ := bind_eq_ok_iff.mp done
  obtain ⟨foreign, linked, done⟩ := bind_eq_ok_iff.mp done
  obtain ⟨subroutines, finished, linked⟩ := bind_eq_ok_iff.mp linked
  obtain ⟨modules, grouped, linked⟩ := bind_eq_ok_iff.mp linked
  rw [plain] at recorded
  cases recorded
  cases done
  refine ⟨modules, subroutines, ?_, finished, ?_⟩
  · rw [← grouped, Context.groupSource]
    exact (if_pos writes).symm
  · show foreign = _
    rw [← Except.ok.inj linked, String.empty_append]

/-- **Modules before their uses.** The foreign source of a module in free form, without code of record
types, is the text of its statements one after the other. Every use of one of its groups comes after
the definition of the group exactly if each group that the block of another uses stands before the
other in the order of the groups. -/
theorem definedBeforeUse_generate_iff (free : generator.options.dialect = .free)
    (writes : generator.options.writeModules = true)
    (plain : generator.records = RecordEmitter.none)
    (done : generator.generate interface = .ok generated) :
    (∃ texts, List.Forall₂ (fun (statement : Statement) written =>
        statement.line.write .free = .ok written)
        (generator.context interface).foreignStatements texts ∧
      generated.foreignSource = String.join texts) ∧
    (DefinedBeforeUse (generator.context interface).inventory.groupNames
        (generator.context interface).foreignStatements ↔
      ∀ group ∈ (generator.context interface).inventory.groupNames,
        ∀ other ∈ (generator.context interface).inventory.groupNames,
        (generator.context interface).Uses group other →
        (generator.context interface).inventory.groupNames.idxOf other <
          (generator.context interface).inventory.groupNames.idxOf group) := by
  obtain ⟨modules, subroutines, blocks, linkage, source⟩ :=
    foreignSource_of_generate writes plain done
  have inFree : (generator.context interface).options.dialect = .free := free
  unfold Context.modulesDraft at blocks
  unfold Context.linkageDraft at linkage
  rw [inFree] at blocks linkage
  obtain ⟨clean, blockTexts, blocksWritten, rfl⟩ := finish_layOutStatements blocks
  obtain ⟨-, linkageTexts, linkageWritten, rfl⟩ := finish_layOutStatements linkage
  refine ⟨⟨blockTexts ++ linkageTexts, List.rel_append blocksWritten linkageWritten, ?_⟩, ?_⟩
  · rw [source, String.join_append]
  · rw [Context.foreignStatements, Context.blockStatements_eq inFree]
    refine Context.definedBeforeUse_iff (fun group member => ?_) _
    refine Context.isBlock_groupModule fun error failed => clean error ?_
    unfold Context.groupModules
    rw [inFree]
    exact List.mem_flatMap.mpr ⟨_, List.mem_map_of_mem member, failed⟩

/-- A scalar, and a static array of its extent in another group. -/
def extentVariables : List Variable :=
  [Variable.scalar "n" .integer "sizes", Variable.array "a" .real "fields" [⟨"1", "n"⟩]]

/-- The scalar comes first. -/
def sizesFirst : Interface where
  module := "wxy"
  declarations := extentVariables.map .variable

/-- The array comes first. -/
def fieldsFirst : Interface where
  module := "wxy"
  declarations := extentVariables.reverse.map .variable

theorem uses_fields {interface : Interface} {other : String}
    (records : ((context {} interface).groupModule "fields").recordModules = [])
    (shapes : (context {} interface).shapeGroups "fields" = .ok ["sizes"]) :
    (context {} interface).Uses "fields" other ↔ other = "sizes" := by
  simp [Context.Uses, records, shapes]

theorem not_uses_sizes {interface : Interface} {other : String}
    (records : ((context {} interface).groupModule "sizes").recordModules = [])
    (shapes : (context {} interface).shapeGroups "sizes" = .ok []) :
    ¬(context {} interface).Uses "sizes" other := by
  simp [Context.Uses, records, shapes]

/-- With the scalar first, the block of the array comes after that of the scalar. -/
theorem definedBeforeUse_sizesFirst :
    ∃ generated, generate {} sizesFirst = .ok generated ∧
      (context {} sizesFirst).Uses "fields" "sizes" ∧
      DefinedBeforeUse ["sizes", "fields"] (context {} sizesFirst).foreignStatements := by
  have succeeds : (generate {} sizesFirst).isOk = true := by decide +kernel
  have fields : ∀ other, (context {} sizesFirst).Uses "fields" other ↔ other = "sizes" := fun _ =>
    uses_fields (by decide +kernel) (by decide +kernel)
  have sizes : ∀ other, ¬(context {} sizesFirst).Uses "sizes" other := fun _ =>
    not_uses_sizes (by decide +kernel) (by decide +kernel)
  have names : (context {} sizesFirst).inventory.groupNames = ["sizes", "fields"] := by
    decide +kernel
  cases done : generate {} sizesFirst with
  | error error => rw [done] at succeeds; cases succeeds
  | ok generated =>
      refine ⟨generated, rfl, (fields "sizes").mpr rfl, ?_⟩
      obtain ⟨-, ordered⟩ := definedBeforeUse_generate_iff rfl rfl rfl done
      rw [names] at ordered
      refine ordered.mpr ?_
      simp [fields, sizes]

/-- **A use before its definition.** With the array first, no group uses one that uses it in turn: a
rank of the groups goes down along every use. Yet the block of the array uses that of the scalar,
which comes later. -/
theorem use_before_definition :
    ∃ generated, generate {} fieldsFirst = .ok generated ∧
      (context {} fieldsFirst).inventory.groupNames = ["fields", "sizes"] ∧
      (∃ rank : String → Nat, ∀ group ∈ ["fields", "sizes"], ∀ other ∈ ["fields", "sizes"],
        (context {} fieldsFirst).Uses group other → rank other < rank group) ∧
      ¬DefinedBeforeUse ["fields", "sizes"] (context {} fieldsFirst).foreignStatements := by
  have succeeds : (generate {} fieldsFirst).isOk = true := by decide +kernel
  have fields : ∀ other, (context {} fieldsFirst).Uses "fields" other ↔ other = "sizes" := fun _ =>
    uses_fields (by decide +kernel) (by decide +kernel)
  have sizes : ∀ other, ¬(context {} fieldsFirst).Uses "sizes" other := fun _ =>
    not_uses_sizes (by decide +kernel) (by decide +kernel)
  cases done : generate {} fieldsFirst with
  | error error => rw [done] at succeeds; cases succeeds
  | ok generated =>
      refine ⟨generated, rfl, by decide +kernel,
        ⟨fun name => if name = "fields" then 1 else 0, ?_⟩, ?_⟩
      · simp [fields, sizes]
      · intro defined
        have split : (context {} fieldsFirst).foreignStatements = [.moduleStart "fields"] ++
            .use "sizes" :: (context {} fieldsFirst).foreignStatements.drop 2 := by
          decide +kernel
        have ended := (defined _ "sizes" _ split (by decide)).moduleEnd_mem
        exact absurd ended (by decide)

end Generator

end ForeignGlue
