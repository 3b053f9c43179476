/-
**Every variable in one group module.**

In free form each group of an interface is a block of the foreign source.

* `Context.perm_declarationOrder`: the variables of all groups are those of the interface, each as often
  as it is there;
* `Context.modulesDraft_eq_blocks`: the source of the group modules has one block for each group that is
  listed;
* `Context.groupModules_partition`: together these blocks declare every variable once, in the block of
  its own group and with the scalars before the arrays;
* `Context.layOut_declare`: the lines of these declarations, spelled out.
-/

import ForeignGlue.Proofs.Inventory.Groups
import ForeignGlue.Proofs.Linkage.ModuleOrder
import Mathlib.Data.List.Perm.Basic

namespace ForeignGlue

open ForeignGlue.Source ForeignGlue.Text

/-- Items are sorted by a key, each into the list of its own. -/
theorem perm_flatMap_filter {α β : Type} [BEq β] [LawfulBEq β] (key : α → β) {keys : List β}
    (nodup : keys.Nodup) {items : List α} (covered : ∀ item ∈ items, key item ∈ keys) :
    (keys.flatMap fun k => items.filter fun item => key item == k).Perm items := by
  induction keys generalizing items with
  | nil =>
      cases items with
      | nil => exact .refl _
      | cons item items => exact absurd (covered item List.mem_cons_self) List.not_mem_nil
  | cons k keys ih =>
      obtain ⟨fresh, nodup⟩ := List.nodup_cons.mp nodup
      let others := items.filter fun item => !(key item == k)
      have later : ∀ l ∈ keys, (items.filter fun item => key item == l) =
          others.filter fun item => key item == l := by
        intro l member
        rw [List.filter_filter]
        refine List.filter_congr fun item _ => ?_
        by_cases same : key item = l
        · have differs : key item ≠ k := fun first => fresh (first ▸ same ▸ member)
          simp [same, same ▸ differs]
        · simp [same]
      have rest : (keys.flatMap fun l => items.filter fun item => key item == l).Perm others := by
        rw [List.flatMap_congr later]
        refine ih nodup fun item member => ?_
        obtain ⟨member, differs⟩ := List.mem_filter.mp member
        rcases List.mem_cons.mp (covered item member) with same | found
        · simp [same] at differs
        · exact found
      rw [List.flatMap_cons]
      exact (rest.append_left _).trans (List.filter_append_perm _ _)

/-! ### Blocks -/

namespace Source.Statement

/-- The variable that a statement declares. -/
def declared? : Statement → Option String
  | .declare declaration => some declaration.name
  | _ => none

/-- The module that a statement is the head of. -/
def started? : Statement → Option String
  | .moduleStart name => some name
  | _ => none

/-- Whether a statement neither declares a variable nor is the head or the end of a module. -/
def IsInert (statement : Statement) : Prop :=
  statement.declared? = none ∧ statement.started? = none ∧ statement.ended? = none

end Source.Statement

/-- A block of the foreign source that is the module of a group. -/
structure GroupBlock where
  name : String
  /-- What stands before the declarations. -/
  opening : List Statement
  /-- The variables, in the order in which they are declared. -/
  members : List Variable

namespace Context

/-- The statements for a variable in the module of its group. -/
def declare (ctx : Context) (v : Variable) : List Statement :=
  if v.isScalar then [ctx.declareScalar v] else ctx.declareArray v

/-- The statements of a block. -/
def blockOf (ctx : Context) (block : GroupBlock) : List Statement :=
  .moduleStart block.name :: block.opening ++ block.members.flatMap ctx.declare ++
    [.moduleEnd block.name]

/-- The axes of a pointer, whose extents are given later. -/
def colonAxes (count : Nat) : String :=
  if count = 0 then "" else "(" ++ join "," (List.replicate count ":") ++ ")"

/-- The lines that declare a variable: one for a scalar and for a dynamic array, and for a static array a
second one if it has an initial value. -/
def declarationLines (ctx : Context) (v : Variable) : List String :=
  if v.isScalar then
    ["  " ++ ctx.types.foreign v.type ++ (if v.isDynamic then ",POINTER" else "") ++
      ctx.options.toolchain.saveAttribute ++ "::" ++ v.name ++
      v.initializer.elim "" fun initializer => "=" ++ initialValue initializer]
  else if v.isDynamic then
    ["  " ++ ctx.arrayType v ++ ",pointer" ++ ctx.options.toolchain.saveAttribute ++ "::" ++ v.name ++
      colonAxes (if v.type.isCharacter then v.rank - 1 else v.rank)]
  else
    ("  " ++ ctx.arrayType v ++ ctx.options.toolchain.saveAttribute ++ "::" ++ v.name ++ v.shape) ::
      v.initializer.elim [] fun initializer => ["  data " ++ v.name ++ flattenLines initializer]

/-- The lines of a block that makes modules known. -/
def blockLines (ctx : Context) (block : GroupBlock) (uses : List String) : List String :=
  ["MODULE " ++ block.name] ++ uses.map ("  USE " ++ ·) ++ ["  SAVE"] ++
    block.members.flatMap ctx.declarationLines ++ ["END MODULE " ++ block.name]

/-- A variable is declared by the first of its statements alone. -/
def DeclaresOnce (ctx : Context) (v : Variable) : Prop :=
  ∃ first rest, ctx.declare v = first :: rest ∧ first.declared? = some v.name ∧
    ∀ statement ∈ rest, statement.IsInert

/-- **A block declares variables of its own group**, each once, scalars before arrays, and is the only
module in it. -/
structure IsGroupBlock (ctx : Context) (block : GroupBlock) : Prop where
  opening : ∀ statement ∈ block.opening, statement.IsInert
  declared : ∀ v ∈ block.members, ctx.DeclaresOnce v
  own : ∀ v ∈ block.members, v.group = block.name
  scalarsFirst : block.members.Pairwise fun first second =>
    second.isScalar = true → first.isScalar = true
  lines : ∃ uses, (ctx.blockOf block).map (fun statement => statement.line.layOut .free) =
    ctx.blockLines block uses

theorem text_pointerAxes (v : Variable) : (pointerAxes v).text =
    colonAxes (if v.type.isCharacter then v.rank - 1 else v.rank) := by
  generalize counted : (if v.type.isCharacter then v.rank - 1 else v.rank) = count
  unfold pointerAxes colonAxes
  rw [counted]
  by_cases none : count = 0
  · rw [if_pos none, if_pos none]
    rfl
  · rw [if_neg none, if_neg none]
    rfl

/-- **The lines of a declaration.** -/
theorem layOut_declare (ctx : Context) (v : Variable) :
    (ctx.declare v).map (fun statement => statement.line.layOut .free) = ctx.declarationLines v := by
  unfold declare declarationLines
  by_cases scalar : v.isScalar = true
  · rw [if_pos scalar, if_pos scalar]
    cases given : v.initializer <;>
      simp [declareScalar, given, Statement.line, Line.layOut, VariableDeclaration.text, Axes.text,
        String.append_assoc]
  · rw [if_neg scalar, if_neg scalar]
    unfold declareArray
    by_cases dynamic : v.isDynamic = true
    · rw [if_pos dynamic, if_pos dynamic]
      simp [Statement.line, Line.layOut, VariableDeclaration.text, text_pointerAxes,
        String.append_assoc]
    · rw [if_neg dynamic, if_neg dynamic]
      have keyword : blanks 2 ++ "data " = "  data " := rfl
      cases given : v.initializer <;>
        simp [Statement.line, Line.layOut, VariableDeclaration.text, Axes.text, keyword,
          ← String.append_assoc]

theorem declaresOnce (ctx : Context) (v : Variable) : ctx.DeclaresOnce v := by
  unfold DeclaresOnce declare
  by_cases scalar : v.isScalar = true
  · rw [if_pos scalar]
    exact ⟨_, [], rfl, rfl, fun _ => nofun⟩
  · rw [if_neg scalar]
    unfold declareArray
    by_cases dynamic : v.isDynamic = true
    · rw [if_pos dynamic]
      exact ⟨_, [], rfl, rfl, fun _ => nofun⟩
    · rw [if_neg dynamic]
      refine ⟨_, _, rfl, rfl, fun statement member => ?_⟩
      cases given : v.initializer with
      | none => rw [given] at member; cases member
      | some text =>
          rw [given] at member
          exact List.mem_singleton.mp member ▸ ⟨rfl, rfl, rfl⟩

variable {ctx : Context}

/-- The scalars of a group, then its arrays. -/
def declarationOrder (ctx : Context) (group : String) : List Variable :=
  (ctx.inventory.variablesIn group).filter Variable.isScalar ++
    (ctx.inventory.variablesIn group).filter fun v => !v.isScalar

theorem declarations_groupModule (group : String) :
    (ctx.groupModule group).declarations = (ctx.declarationOrder group).flatMap ctx.declare := by
  unfold declarationOrder groupModule declare
  dsimp only
  rw [List.flatMap_append, List.map_eq_flatMap]
  refine congrArg₂ _ (List.flatMap_congr fun v member => ?_) (List.flatMap_congr fun v member => ?_)
  · exact (if_pos (List.mem_filter.mp member).2).symm
  · exact (if_neg (by simpa using (List.mem_filter.mp member).2)).symm

theorem mem_declarationOrder {group : String} {v : Variable}
    (member : v ∈ ctx.declarationOrder group) : v ∈ ctx.inventory.variablesIn group := by
  rcases List.mem_append.mp member with scalar | array
  · exact (List.mem_filter.mp scalar).1
  · exact (List.mem_filter.mp array).1

theorem pairwise_declarationOrder (group : String) :
    (ctx.declarationOrder group).Pairwise fun first second =>
      second.isScalar = true → first.isScalar = true := by
  refine List.pairwise_append.mpr ⟨?_, ?_, ?_⟩
  · refine List.Pairwise.imp_of_mem (fun first _ _ _ => ?_) (List.pairwise_of_forall fun _ _ => trivial)
    exact (List.mem_filter.mp first).2
  · refine List.Pairwise.imp_of_mem (fun _ second _ scalar => ?_)
      (List.pairwise_of_forall fun _ _ => trivial)
    have array := (List.mem_filter.mp second).2
    rw [scalar] at array
    cases array
  · intro first scalar second _ _
    exact (List.mem_filter.mp scalar).2

/-- **The groups have every variable**, each as often as it is there. -/
theorem perm_declarationOrder {interface : Interface}
    (sorted : ctx.inventory = .ofInterface interface) :
    (ctx.inventory.groupNames.flatMap ctx.declarationOrder).Perm ctx.inventory.allVariables := by
  have each : ∀ group ∈ ctx.inventory.groupNames,
      (ctx.declarationOrder group).Perm (ctx.inventory.variablesIn group) :=
    fun group _ => List.filter_append_perm _ _
  refine (List.Perm.flatMap_left _ each).trans ?_
  rw [sorted]
  exact perm_flatMap_filter Variable.group interface.nodup_groups fun v =>
    Inventory.group_mem_groupNames

/-- The block of a group. -/
def groupBlock (ctx : Context) (group : String) : GroupBlock where
  name := group
  opening := ((ctx.groupModule group).recordModules ++
    (ctx.shapeGroups group).toOption.getD []).map .use ++ [.plain "  SAVE"]
  members := ctx.declarationOrder group

theorem statements_groupBlock {group : String}
    (clean : ∀ error, .error error ∉ (ctx.groupModule group).statements) :
    Draft.statements (ctx.groupModule group).statements = ctx.blockOf (ctx.groupBlock group) := by
  obtain ⟨groups, shapes, spelled⟩ := statements_groupModule clean
  rw [spelled, declarations_groupModule]
  unfold blockOf groupBlock
  rw [shapes]
  simp only [Except.toOption, Option.getD_some, List.append_assoc, List.cons_append, List.nil_append]

theorem isGroupBlock_groupBlock (ctx : Context) (group : String) :
    ctx.IsGroupBlock (ctx.groupBlock group) where
  opening := by
    intro statement member
    rcases List.mem_append.mp member with used | plain
    · obtain ⟨name, -, rfl⟩ := List.mem_map.mp used
      exact ⟨rfl, rfl, rfl⟩
    · rw [List.mem_singleton.mp plain]
      exact ⟨rfl, rfl, rfl⟩
  declared v _ := ctx.declaresOnce v
  own v member := beq_iff_eq.mp (List.mem_filter.mp (mem_declarationOrder member)).2
  scalarsFirst := pairwise_declarationOrder group
  lines := by
    refine ⟨(ctx.groupModule group).recordModules ++ (ctx.shapeGroups group).toOption.getD [], ?_⟩
    have declared := List.flatMap_congr fun v (_ : v ∈ ctx.declarationOrder group) =>
      ctx.layOut_declare v
    unfold blockOf blockLines groupBlock
    simp only [List.map_append, List.map_cons, List.map_nil, List.map_flatMap, List.map_map, declared,
      List.append_assoc, List.cons_append, List.nil_append]
    rfl

/-- **One block for each group.** The source of the group modules in free form is the text of the blocks
of the groups that are listed, in their order. -/
theorem modulesDraft_eq_blocks (free : ctx.options.dialect = .free) {text : String}
    (done : ctx.modulesDraft.finish = .ok text) :
    ∃ texts, List.Forall₂ (fun (statement : Statement) written =>
        statement.line.write .free = .ok written)
        ((ctx.inventory.groupNames.map ctx.groupBlock).flatMap ctx.blockOf) texts ∧
      text = String.join texts := by
  unfold modulesDraft at done
  rw [free] at done
  obtain ⟨clean, texts, written, joined⟩ := finish_layOutStatements done
  refine ⟨texts, ?_, joined⟩
  have blocks : ctx.blockStatements =
      (ctx.inventory.groupNames.map ctx.groupBlock).flatMap ctx.blockOf := by
    rw [blockStatements_eq free, List.flatMap_map]
    refine List.flatMap_congr fun group member => statements_groupBlock fun error failed => ?_
    refine clean error (List.mem_flatMap.mpr ⟨ctx.groupModule group, ?_, failed⟩)
    unfold groupModules
    rw [free]
    exact List.mem_map_of_mem member
  rw [← blocks]
  exact written

/-- **Every variable is declared in one group module.** The declarations of an interface are sorted in
their order without loss or repetition, and every group is listed once. In free form, the source of the
group modules has one block for each group that is listed. Together the blocks declare the scalars, the
arrays and the hidden variables, each as often as it is there, in the block of its own group, and with
scalars before arrays. -/
theorem groupModules_partition (interface : Interface) (options : Options) (types : TypeTable)
    (externals : List ScalarIndex) :
    let inventory := Inventory.ofInterface interface
    let ctx : Context := { inventory, options, types, externals }
    inventory.Sorts interface ∧ interface.ListsGroups inventory.groups ∧
    (options.dialect = .free → ∀ text, ctx.modulesDraft.finish = .ok text →
      ∃ blocks : List GroupBlock,
        (∃ texts, List.Forall₂ (fun (statement : Statement) written =>
            statement.line.write .free = .ok written) (blocks.flatMap ctx.blockOf) texts ∧
          text = String.join texts) ∧
        blocks.map GroupBlock.name = inventory.groups.map Group.name ∧
        (blocks.flatMap GroupBlock.members).Perm
          (inventory.scalars ++ inventory.arrays ++ inventory.hidden) ∧
        ∀ block ∈ blocks, ctx.IsGroupBlock block) := by
  intro inventory ctx
  refine ⟨Inventory.sorts_ofInterface interface, interface.listsGroups_groups, fun free text done => ?_⟩
  refine ⟨inventory.groupNames.map ctx.groupBlock, modulesDraft_eq_blocks free done, ?_, ?_, ?_⟩
  · rw [List.map_map]
    exact List.map_id _
  · rw [List.flatMap_map]
    exact perm_declarationOrder rfl
  · intro block member
    obtain ⟨group, -, rfl⟩ := List.mem_map.mp member
    exact ctx.isGroupBlock_groupBlock group

/-- Two visible groups, one of which has a hidden array as well, and a group that is hidden. -/
def mixedGroups : Interface where
  module := "wxy"
  declarations :=
    [.variable (Variable.array "a" .real "fields" [⟨"1", "n"⟩]),
     .variable (Variable.scalar "n" .integer "sizes"),
     .variable (Variable.scalar "t" .real "fields")]
  hidden := [Variable.scalar "w" .real "work", Variable.array "b" .real "fields" [⟨"1", "3"⟩]]

/-- The source has three blocks. The hidden group comes last, and the hidden array is declared among the
others of its group. -/
theorem groupModules_partition_mixed :
    let ctx : Context := { inventory := .ofInterface mixedGroups }
    let text := "MODULE fields\n  USE sizes\n  SAVE\n  real(kind=8)::t\n  real(kind=8)::a(n)\n" ++
      "  real(kind=8)::b(3)\nEND MODULE fields\n" ++
      "MODULE sizes\n  SAVE\n  integer(kind=8)::n\nEND MODULE sizes\n" ++
      "MODULE work\n  SAVE\n  real(kind=8)::w\nEND MODULE work\n"
    ∃ blocks : List GroupBlock, ctx.modulesDraft.finish.toOption = some text ∧
      blocks.map GroupBlock.name = ["fields", "sizes", "work"] ∧
      ((blocks.flatMap GroupBlock.members).map Variable.name).Perm ["n", "t", "a", "w", "b"] ∧
      ∀ block ∈ blocks, ctx.IsGroupBlock block := by
  intro ctx text
  have spelled : ctx.modulesDraft.finish.toOption = some text := by decide +kernel
  have succeeds : ctx.modulesDraft.finish.toOption.isSome := by rw [spelled]; rfl
  obtain ⟨found, done⟩ := exists_ok_of_isSome succeeds
  obtain ⟨-, -, written⟩ := groupModules_partition mixedGroups {} .standard []
  obtain ⟨blocks, -, names, members, each⟩ := written rfl found done
  exact ⟨blocks, spelled, names, members.map _, each⟩

end Context

end ForeignGlue
