/-
**Linkage closure.** The host file and the foreign subroutines of a module name each other, and the
linker has to find every such name on the other side:

* `Subroutine.heads_statements`: the heads in a source of generated subroutines are their names;
* `Context.headLines_sublist`: the lines of these heads, spelled out, are in the source in this order;
* `Context.package_binderSymbols`: the tables name the subroutines of single variables, in order;
* `Context.declared_of_mem_hostItems`: what the host file declares is in the foreign source, or a
  routine or a constructor of the interface;
* `Context.isCallable_of_mem_linkage`: what a generated subroutine calls is in the host file, or in
  the code of a record type.

The tables and the subroutines decide each for themselves which variables have a binder. That the
two decisions agree is `scalarDescriptor_symbols` and `arrayDescriptor_symbols`.
-/

import ForeignGlue.Generation
import ForeignGlue.Proofs.Inventory.Groups
import ForeignGlue.Proofs.Source.StatementLines

namespace ForeignGlue

open ForeignGlue.Source ForeignGlue.Text

/-! ### What a source defines and calls -/

/-- The subroutine that a statement is the head of. -/
def Source.Statement.head? : Statement → Option String
  | .subroutine name _ => some name
  | _ => none

/-- The subroutine that a statement calls. -/
def Source.Statement.callee? : Statement → Option String
  | .call _ callee _ => some callee
  | _ => none

/-- The statements that a draft writes. -/
def Source.Draft.statements (draft : Draft Statement) : List Statement :=
  draft.filterMap Except.toOption

/-- The lines of the statements that a draft writes, before they are broken. -/
def Source.Draft.lines (dialect : Dialect) (draft : Draft Statement) : List String :=
  draft.statements.map fun statement => statement.line.layOut dialect

/-- The subroutines that a draft defines, in order. -/
def Source.Draft.heads (draft : Draft Statement) : List String :=
  draft.statements.filterMap Statement.head?

theorem Source.Draft.mem_statements {draft : Draft Statement} {statement : Statement} :
    statement ∈ draft.statements ↔ .ok statement ∈ draft := by
  rw [Draft.statements, List.mem_filterMap]
  constructor
  · rintro ⟨piece, member, found⟩
    cases piece with
    | error error => simp [Except.toOption] at found
    | ok piece =>
        rw [Except.toOption, Option.some.injEq] at found
        exact found ▸ member
  · intro member
    exact ⟨.ok statement, member, rfl⟩

theorem Source.Draft.heads_append (first second : Draft Statement) :
    Draft.heads (first ++ second) = first.heads ++ second.heads := by
  rw [Draft.heads, Draft.statements, List.filterMap_append, List.filterMap_append]
  rfl

/-- **Heads of subroutines**: where no body holds a head, the heads are the names. -/
theorem Subroutine.heads_statements {subroutines : List Subroutine}
    (headless : ∀ subroutine ∈ subroutines, ∀ statement, .ok statement ∈ subroutine.body →
      statement.head? = none) :
    Draft.heads (subroutines.flatMap Subroutine.statements) = subroutines.map Subroutine.name := by
  induction subroutines with
  | nil => rfl
  | cons first rest ih =>
      have noHead : Draft.heads first.body = [] := by
        rw [Draft.heads, List.filterMap_eq_nil_iff]
        intro statement member
        exact headless first List.mem_cons_self statement (Draft.mem_statements.1 member)
      have others := ih fun subroutine member =>
        headless subroutine (List.mem_cons_of_mem first member)
      have firstHeads : Draft.heads first.statements = first.name :: Draft.heads first.body := rfl
      rw [List.flatMap_cons, Draft.heads_append, firstHeads, noHead, others]
      rfl

theorem Source.Draft.lines_append (dialect : Dialect) (first second : Draft Statement) :
    Draft.lines dialect (first ++ second) = first.lines dialect ++ second.lines dialect := by
  rw [Draft.lines, Draft.statements, List.filterMap_append, List.map_append]
  rfl

/-- The line of a subroutine's head. -/
def Subroutine.headLine (dialect : Dialect) (subroutine : Subroutine) : String :=
  ForeignGlue.headLine dialect subroutine.name subroutine.parameters

/-- The lines of the heads are in the source, in order. -/
theorem Subroutine.headLines_sublist (dialect : Dialect) (subroutines : List Subroutine) :
    (subroutines.map (headLine dialect)).Sublist
      (Draft.lines dialect (subroutines.flatMap Subroutine.statements)) := by
  induction subroutines with
  | nil => exact .slnil
  | cons first rest ih =>
      have head : Draft.lines dialect first.statements =
          first.headLine dialect :: Draft.lines dialect first.body :=
        congrArg (· :: _) (layOut_subroutine dialect first.name first.parameters)
      rw [List.flatMap_cons, Draft.lines_append, head, List.map_cons, List.cons_append]
      exact (ih.trans (List.sublist_append_right _ _)).cons_cons _

/-- The symbols of the subroutines that the tables refer to: for each scalar and then for each array
the one that binds it and the one that tells what it is bound to. -/
def Package.binderSymbols (package : Package) : List String :=
  package.scalars.flatMap (fun scalar => scalar.setter.toList ++ scalar.getter.toList) ++
    package.arrays.flatMap (fun array => array.setter.toList ++ array.getter.toList)

namespace Context

/-! ### The tables -/

/-- The subroutines of a scalar are those its descriptor names, in free form. -/
theorem scalarDescriptor_symbols (ctx : Context) (v : Variable) (free : ctx.isFree = true) :
    (ctx.scalarDescriptor v).setter.toList ++ (ctx.scalarDescriptor v).getter.toList =
      (ctx.scalarSubroutines v).map fun subroutine =>
        ctx.options.toolchain.linkName subroutine.name := by
  rw [scalarDescriptor, scalarSubroutines, List.map_append]
  dsimp only
  rw [scalarHasSetter, scalarHasGetter, free, Bool.true_and, Bool.true_and]
  congr 1
  · cases v.isDynamic || v.isRecord <;> rfl
  · cases v.isDynamic && v.isRecord <;> rfl

/-- The subroutines of an array are those its descriptor names, in free form. -/
theorem arrayDescriptor_symbols (ctx : Context) (v : Variable) (free : ctx.isFree = true) :
    (ctx.arrayDescriptor v).setter.toList ++ (ctx.arrayDescriptor v).getter.toList =
      (ctx.arraySubroutines v).map fun subroutine =>
        ctx.options.toolchain.linkName subroutine.name := by
  rw [arrayDescriptor, arraySubroutines]
  dsimp only
  rw [arrayHasSetter, arrayHasGetter, free, Bool.true_and]
  cases v.isDynamic with
  | false => rfl
  | true => cases v.isReassigned <;> rfl

/-- The binders that a module has: in fixed form none. -/
def ownBinders (ctx : Context) : List Subroutine :=
  if ctx.isFree then ctx.binders else []

/-- **The tables name the binders**, in the order in which they are written. -/
theorem package_binderSymbols (ctx : Context) :
    ctx.package.binderSymbols =
      ctx.ownBinders.map fun subroutine => ctx.options.toolchain.linkName subroutine.name := by
  rw [Package.binderSymbols, package, List.flatMap_map, List.flatMap_map, ownBinders]
  cases free : ctx.isFree with
  | false =>
      simp [scalarDescriptor, arrayDescriptor, scalarHasSetter, scalarHasGetter, arrayHasSetter,
        arrayHasGetter, free]
  | true =>
      rw [if_pos rfl, binders, List.map_append, List.map_flatMap, List.map_flatMap]
      simp only [scalarDescriptor_symbols ctx _ free, arrayDescriptor_symbols ctx _ free]

/-- Two pointers, one of them to an instance, and an array that foreign code may reassign. -/
example :
    let pointer := { Variable.scalar "x" .real "g" with dynamic := true }
    let pointed := { Variable.scalar "r" (.record "point") "g" with dynamic := true }
    let array := { Variable.array "a" .real "g" [⟨"1", "n"⟩] with
      dynamic := true, attributes := "fassign" }
    let interface : Interface :=
      { module := "wxy", declarations := [.variable pointer, .variable pointed, .variable array] }
    let ctx : Context := { inventory := .ofInterface interface }
    ctx.package.binderSymbols =
        ["wxysetpointerx_", "wxysetpointerr_", "wxygetpointerr_", "wxysetpointera_",
          "wxygetpointera_"] ∧
      ctx.ownBinders.map (Subroutine.headLine .free) =
        ["SUBROUTINE wxysetpointerx(p__,cobj__)", "SUBROUTINE wxysetpointerr(p__,cobj__)",
          "SUBROUTINE wxygetpointerr(cobj__,obj__,createnew__)",
          "SUBROUTINE wxysetpointera(p__,cobj__,dims__)", "SUBROUTINE wxygetpointera(i__,obj__)"] := by
  decide +kernel

/-! ### What the subroutines call -/

/-- The lines of the host file. -/
def hostLines (ctx : Context) : Draft String :=
  ctx.hostItems.flatMap Item.lines

/-- The definition of a function without result, as the host file has it. -/
def DefinesVoid (ctx : Context) (symbol : String) : Prop :=
  ∃ item ∈ ctx.hostItems, item.defined? = some symbol ∧
    ∃ parameters body, item.lines = .ok ("void " ++ symbol ++ parameters) :: .ok "\x7b" :: body

/-- Something that generated subroutines may call: a function that the host file defines under the
linker's name for it, or the initialization of an instance that is a scalar of the module, which
belongs to the code of its record type. -/
def IsCallable (ctx : Context) (callee : String) : Prop :=
  ctx.DefinesVoid (ctx.options.toolchain.linkName callee) ∨
    ∃ v ∈ ctx.inventory.scalars, v.type.isRecord = true ∧ callee = "init" ++ v.type.tag ++ "py"

/-- What may stand in the body of a generated subroutine: no head, and no call of what is not
there. -/
def BodyStatement (ctx : Context) (statement : Statement) : Prop :=
  statement.head? = none ∧ ∀ callee, statement.callee? = some callee → ctx.IsCallable callee

/-- The functions of the pointer protocol are in the host file. -/
theorem isCallable_of_role (ctx : Context) (role : String)
    (known : role ∈ ["setscalarpointers", "setderivedtypepointers", "setarraypointers",
      "setarraypointersobj", "setarraydims"]) :
    ctx.IsCallable (ctx.foreignSymbol role "") := by
  have defined : ∃ parameters body, ctx.binderItem role parameters body ∈ ctx.binderItems := by
    simp only [List.mem_cons, List.not_mem_nil, or_false] at known
    rcases known with rfl | rfl | rfl | rfl | rfl
    · exact ⟨_, _, List.mem_of_getElem? (i := 0) rfl⟩
    · exact ⟨_, _, List.mem_of_getElem? (i := 1) rfl⟩
    · exact ⟨_, _, List.mem_of_getElem? (i := 2) rfl⟩
    · exact ⟨_, _, List.mem_of_getElem? (i := 3) rfl⟩
    · exact ⟨_, _, List.mem_of_getElem? (i := 4) rfl⟩
  obtain ⟨parameters, body, member⟩ := defined
  refine Or.inl ⟨ctx.binderItem role parameters body, ?_, rfl, parameters, _, rfl⟩
  simp only [hostItems, List.mem_append]
  exact Or.inl (Or.inr member)

/-- A statement that is neither a head nor a call may stand in any body. -/
theorem bodyStatement_of_inert (ctx : Context) {statement : Statement}
    (headless : statement.head? = none) (silent : statement.callee? = none) :
    ctx.BodyStatement statement :=
  ⟨headless, fun callee found => by simp [silent] at found⟩

/-- A call in a body, of something that can be called. -/
theorem bodyStatement_call (ctx : Context) {callee : String} (indent : Nat)
    (arguments : List String) (callable : ctx.IsCallable callee) :
    ctx.BodyStatement (.call indent callee arguments) := by
  refine ⟨rfl, ?_⟩
  intro called found
  rw [Statement.callee?, Option.some.injEq] at found
  exact found ▸ callable

/-! ### The bodies -/

theorem bodyStatement_useGroups (ctx : Context) (indent : Nat) :
    ∀ statement ∈ ctx.useGroups indent, ctx.BodyStatement statement := by
  intro statement member
  obtain ⟨group, -, rfl⟩ := List.mem_map.1 member
  cases ctx.options.dialect <;> exact ctx.bodyStatement_of_inert rfl rfl

/-- What hands over a scalar calls the setter of addresses, or what sets up its record. -/
theorem bodyStatement_passScalar (ctx : Context) (slot : Nat) {v : Variable}
    (scalar : v ∈ ctx.inventory.scalars) :
    ∀ statement ∈ ctx.passScalar slot v, ctx.BodyStatement statement := by
  intro statement member
  unfold passScalar at member
  split at member
  · next typeName record =>
      have isRecord : v.type.isRecord = true := by rw [record]; rfl
      simp only [List.mem_cons, List.not_mem_nil, or_false] at member
      rcases member with rfl | rfl
      · refine ctx.bodyStatement_call _ _ (Or.inr ⟨v, scalar, isRecord, ?_⟩)
        rw [record]
        rfl
      · exact ctx.bodyStatement_call _ _ (ctx.isCallable_of_role _ (by decide))
  · rw [List.mem_singleton] at member
    rw [member]
    exact ctx.bodyStatement_call _ _ (ctx.isCallable_of_role _ (by decide))

theorem bodyStatement_passArray (ctx : Context) (slot : Nat) (v : Variable) :
    ∀ statement ∈ ctx.passArray slot v, ctx.BodyStatement statement := by
  intro statement member
  have call : ∃ name, statement =
      .call 2 (ctx.foreignSymbol "setarraypointers" "") [ctx.slotLiteral slot, name] := by
    unfold passArray at member
    split at member
    · simp at member
    · exact ⟨_, List.mem_singleton.1 member⟩
    · exact ⟨_, List.mem_singleton.1 member⟩
  obtain ⟨name, rfl⟩ := call
  exact ctx.bodyStatement_call _ _ (ctx.isCallable_of_role _ (by decide))

/-- A subroutine whose body holds nothing but what may stand there. -/
def HasClosedBody (ctx : Context) (subroutine : Subroutine) : Prop :=
  ∀ statement, .ok statement ∈ subroutine.body → ctx.BodyStatement statement

/-- A body without failures. -/
theorem hasClosedBody_ofList (ctx : Context) {subroutine : Subroutine}
    {statements : List Statement} (body : subroutine.body = Draft.ofList statements)
    (closed : ∀ statement ∈ statements, ctx.BodyStatement statement) :
    ctx.HasClosedBody subroutine := by
  intro statement member
  rw [body, Draft.ofList, List.mem_map] at member
  obtain ⟨found, foundMember, same⟩ := member
  rw [Except.ok.injEq] at same
  exact same ▸ closed found foundMember

/-- A line that ends a body, or any other line of no further interest. -/
theorem bodyStatement_plain (ctx : Context) (text : String) : ctx.BodyStatement (.plain text) :=
  ctx.bodyStatement_of_inert rfl rfl

theorem hasClosedBody_passPointers (ctx : Context) : ctx.HasClosedBody ctx.passPointers := by
  refine ctx.hasClosedBody_ofList rfl ?_
  intro statement member
  simp only [List.mem_append, List.mem_flatten, List.mem_mapIdx] at member
  rcases member with ((use | ⟨_, ⟨slot, bound, rfl⟩, scalar⟩) | ⟨_, ⟨slot, bound, rfl⟩, array⟩) | last
  · exact ctx.bodyStatement_useGroups 2 statement use
  · split at scalar
    · simp at scalar
    · exact ctx.bodyStatement_passScalar slot (List.getElem_mem bound) statement scalar
  · exact ctx.bodyStatement_passArray slot _ statement array
  · simp only [List.mem_cons, List.not_mem_nil, or_false] at last
    rcases last with rfl | rfl <;> exact ctx.bodyStatement_plain _

theorem hasClosedBody_nullifyPointers (ctx : Context) :
    ctx.HasClosedBody ctx.nullifyPointers := by
  refine ctx.hasClosedBody_ofList rfl ?_
  intro statement member
  simp only [List.mem_append, List.mem_map] at member
  rcases member with (use | ⟨v, -, rfl⟩) | last
  · exact ctx.bodyStatement_useGroups 2 statement use
  · exact ctx.bodyStatement_of_inert rfl rfl
  · simp only [List.mem_cons, List.not_mem_nil, or_false] at last
    rcases last with rfl | rfl <;> exact ctx.bodyStatement_plain _

theorem hasClosedBody_scalarSetter (ctx : Context) (v : Variable) :
    ctx.HasClosedBody (ctx.scalarSetter v) := by
  refine ctx.hasClosedBody_ofList rfl ?_
  intro statement member
  simp only [List.mem_cons, List.not_mem_nil, or_false] at member
  rcases member with rfl | rfl | rfl | rfl | rfl | rfl <;> exact ctx.bodyStatement_of_inert rfl rfl

theorem hasClosedBody_scalarGetter (ctx : Context) {v : Variable}
    (scalar : v ∈ ctx.inventory.scalars) (isRecord : v.isRecord = true) :
    ctx.HasClosedBody (ctx.scalarGetter v) := by
  have listed : v ∈ ctx.inventory.allVariables :=
    List.mem_append_left _ (List.mem_append_left _ scalar)
  refine ctx.hasClosedBody_ofList rfl ?_
  simp only [List.forall_mem_cons]
  rw [Inventory.isRecord_eq listed] at isRecord
  have initialized : ctx.IsCallable s!"init{v.type.tag}py" := Or.inr ⟨v, scalar, isRecord, rfl⟩
  refine ⟨ctx.bodyStatement_of_inert rfl rfl, ctx.bodyStatement_plain _, ctx.bodyStatement_plain _,
    ctx.bodyStatement_plain _, ctx.bodyStatement_call _ _ initialized, ?_⟩
  simp only [ctx.bodyStatement_plain, true_and, List.not_mem_nil, false_imp_iff, implies_true]

theorem hasClosedBody_arraySetter (ctx : Context) (v : Variable) :
    ctx.HasClosedBody (ctx.arraySetter v) := by
  cases groups : ctx.arrayGroups v with
  | error error =>
      intro statement member
      simp [arraySetter, groups] at member
  | ok names =>
      refine ctx.hasClosedBody_ofList (by rw [arraySetter, groups]) ?_
      intro statement member
      simp only [List.mem_append, List.mem_map, List.mem_cons, List.not_mem_nil, or_false] at member
      rcases member with ⟨group, -, rfl⟩ | rfl | rfl | rfl | rfl | rfl | rfl <;>
        exact ctx.bodyStatement_of_inert rfl rfl

theorem hasClosedBody_arrayGetter (ctx : Context) (v : Variable) :
    ctx.HasClosedBody (ctx.arrayGetter v) := by
  refine ctx.hasClosedBody_ofList rfl ?_
  simp only [List.forall_mem_cons]
  have bindsBuffer := ctx.isCallable_of_role "setarraypointersobj" (by decide)
  have bindsShape := ctx.isCallable_of_role "setarraydims" (by decide)
  refine ⟨ctx.bodyStatement_of_inert rfl rfl, ctx.bodyStatement_plain _, ctx.bodyStatement_plain _,
    ctx.bodyStatement_plain _, ctx.bodyStatement_call _ _ bindsBuffer, ctx.bodyStatement_plain _,
    ctx.bodyStatement_call _ _ bindsShape, ?_⟩
  simp only [ctx.bodyStatement_plain, true_and, List.not_mem_nil, false_imp_iff, implies_true]

theorem hasClosedBody_dataRoutine (ctx : Context) : ctx.HasClosedBody ctx.dataRoutine := by
  refine ctx.hasClosedBody_ofList rfl ?_
  intro statement member
  simp only [List.mem_append, List.mem_filterMap, Option.map_eq_some_iff] at member
  rcases member with ((use | first) | ⟨v, -, initializer, -, rfl⟩) | last
  · exact ctx.bodyStatement_useGroups 0 statement use
  · rw [List.mem_singleton] at first
    exact first ▸ ctx.bodyStatement_plain _
  · exact ctx.bodyStatement_of_inert rfl rfl
  · simp only [List.mem_cons, List.not_mem_nil, or_false] at last
    rcases last with rfl | rfl | rfl <;> exact ctx.bodyStatement_plain _

/-- What the binders are. Only an instance has one that tells it. -/
theorem mem_binders_cases (ctx : Context) {subroutine : Subroutine}
    (member : subroutine ∈ ctx.binders) :
    (∃ v ∈ ctx.inventory.scalars, subroutine = ctx.scalarSetter v ∨
      (v.isRecord = true ∧ subroutine = ctx.scalarGetter v)) ∨
    ∃ v ∈ ctx.inventory.arrays, subroutine = ctx.arraySetter v ∨
      subroutine = ctx.arrayGetter v := by
  simp only [binders, List.mem_append, List.mem_flatMap] at member
  rcases member with ⟨v, scalar, own⟩ | ⟨v, array, own⟩
  · rw [scalarSubroutines, List.mem_append, List.mem_ite_nil_right, List.mem_ite_nil_right,
      List.mem_singleton, List.mem_singleton, Bool.and_eq_true] at own
    rcases own with ⟨-, same⟩ | ⟨⟨-, isRecord⟩, same⟩
    · exact Or.inl ⟨v, scalar, Or.inl same⟩
    · exact Or.inl ⟨v, scalar, Or.inr ⟨isRecord, same⟩⟩
  · rw [arraySubroutines, List.mem_ite_nil_right, List.mem_cons, List.mem_ite_nil_right,
      List.mem_singleton] at own
    rcases own with ⟨-, same | ⟨-, same⟩⟩
    · exact Or.inr ⟨v, array, Or.inl same⟩
    · exact Or.inr ⟨v, array, Or.inr same⟩

/-- **The subroutines of all variables** have closed bodies. -/
theorem hasClosedBody_of_mem_binders (ctx : Context) {subroutine : Subroutine}
    (member : subroutine ∈ ctx.binders) : ctx.HasClosedBody subroutine := by
  rcases ctx.mem_binders_cases member with
    ⟨v, scalar, rfl | ⟨isRecord, rfl⟩⟩ | ⟨v, -, rfl | rfl⟩
  · exact ctx.hasClosedBody_scalarSetter v
  · exact ctx.hasClosedBody_scalarGetter scalar isRecord
  · exact ctx.hasClosedBody_arraySetter v
  · exact ctx.hasClosedBody_arrayGetter v

/-- The subroutines of a module: two for all variables, the binders, and in fixed form one for the
initial values. -/
theorem subroutines_eq (ctx : Context) :
    ctx.subroutines = [ctx.passPointers, ctx.nullifyPointers] ++ ctx.ownBinders ++
      if ctx.isFree then [] else [ctx.dataRoutine] := by
  rw [subroutines, ownBinders, isFree]
  cases ctx.options.dialect with
  | free => simp
  | fixed => simp

/-- **Closed bodies**: a generated subroutine holds no head, and it calls only what is there. -/
theorem hasClosedBody_of_mem_subroutines (ctx : Context) {subroutine : Subroutine}
    (member : subroutine ∈ ctx.subroutines) : ctx.HasClosedBody subroutine := by
  rw [subroutines_eq, List.mem_append, List.mem_append, ownBinders, List.mem_ite_nil_right,
    List.mem_ite_nil_left] at member
  rcases member with (common | ⟨-, own⟩) | ⟨-, last⟩
  · simp only [List.mem_cons, List.not_mem_nil, or_false] at common
    rcases common with rfl | rfl
    · exact ctx.hasClosedBody_passPointers
    · exact ctx.hasClosedBody_nullifyPointers
  · exact ctx.hasClosedBody_of_mem_binders own
  · rw [List.mem_singleton] at last
    exact last ▸ ctx.hasClosedBody_dataRoutine

/-- The subroutines of the source are those of the list. -/
theorem heads_linkageStatements (ctx : Context) :
    ctx.linkageStatements.heads = ctx.subroutines.map Subroutine.name :=
  Subroutine.heads_statements fun _ member statement held =>
    (ctx.hasClosedBody_of_mem_subroutines member statement held).1

/-- The lines of the subroutines, before they are broken. -/
def linkageLines (ctx : Context) : List String :=
  ctx.linkageStatements.lines ctx.options.dialect

/-- The lines of the heads are those of the two subroutines for all variables, of the binders, and in
fixed form of the one for the initial values. -/
theorem headLines_sublist (ctx : Context) :
    ([headLine ctx.options.dialect (ctx.foreignSymbol "passpointers" "") [],
        headLine ctx.options.dialect (ctx.foreignSymbol "nullifypointers" "") []] ++
      ctx.ownBinders.map (Subroutine.headLine ctx.options.dialect) ++
      (if ctx.isFree then []
        else [headLine ctx.options.dialect (ctx.foreignSymbol "data" "") []])).Sublist
      ctx.linkageLines := by
  have heads : ctx.subroutines.map (Subroutine.headLine ctx.options.dialect) =
      [headLine ctx.options.dialect (ctx.foreignSymbol "passpointers" "") [],
        headLine ctx.options.dialect (ctx.foreignSymbol "nullifypointers" "") []] ++
      ctx.ownBinders.map (Subroutine.headLine ctx.options.dialect) ++
      (if ctx.isFree then []
        else [headLine ctx.options.dialect (ctx.foreignSymbol "data" "") []]) := by
    rw [subroutines_eq, List.map_append, List.map_append]
    cases ctx.isFree <;> rfl
  rw [← heads]
  exact Subroutine.headLines_sublist _ _

/-- What the linkage calls is there. -/
theorem isCallable_of_mem_linkage (ctx : Context) {statement : Statement} {callee : String}
    (member : statement ∈ ctx.linkageStatements.statements)
    (called : statement.callee? = some callee) : ctx.IsCallable callee := by
  rw [Draft.mem_statements, linkageStatements, List.mem_flatMap] at member
  obtain ⟨subroutine, known, held⟩ := member
  rw [Subroutine.statements, List.mem_cons, Except.ok.injEq] at held
  rcases held with rfl | held
  · simp [Statement.callee?] at called
  · exact (ctx.hasClosedBody_of_mem_subroutines known statement held).2 callee called

/-- A binder is named for a variable of the module and for what it does to it. -/
theorem name_of_mem_ownBinders (ctx : Context) {subroutine : Subroutine}
    (member : subroutine ∈ ctx.ownBinders) :
    ∃ v ∈ ctx.inventory.scalars ++ ctx.inventory.arrays,
      subroutine.name = ctx.foreignSymbol "setpointer" v.name ∨
        subroutine.name = ctx.foreignSymbol "getpointer" v.name := by
  rw [ownBinders, List.mem_ite_nil_right] at member
  rcases ctx.mem_binders_cases member.2 with
    ⟨v, scalar, rfl | ⟨-, rfl⟩⟩ | ⟨v, array, rfl | rfl⟩
  · exact ⟨v, List.mem_append_left _ scalar, Or.inl rfl⟩
  · exact ⟨v, List.mem_append_left _ scalar, Or.inr rfl⟩
  · exact ⟨v, List.mem_append_right _ array, Or.inl rfl⟩
  · exact ⟨v, List.mem_append_right _ array, Or.inr rfl⟩

/-! ### What the host file calls and declares -/

/-- A symbol that the linker finds in the foreign source: its name for a subroutine there, which has a
head on a line of its own. -/
def IsLinked (ctx : Context) (symbol : String) : Prop :=
  ∃ name ∈ ctx.linkageStatements.heads, symbol = ctx.options.toolchain.linkName name ∧
    ∃ parameters, headLine ctx.options.dialect name parameters ∈ ctx.linkageLines

/-- **What is defined can be linked.** -/
theorem isLinked_of_mem_subroutines (ctx : Context) {subroutine : Subroutine} {name : String}
    (member : subroutine ∈ ctx.subroutines) (named : subroutine.name = name) :
    ctx.IsLinked (ctx.options.toolchain.linkName name) := by
  refine ⟨name, ?_, rfl, subroutine.parameters, ?_⟩
  · rw [heads_linkageStatements, ← named]
    exact List.mem_map_of_mem member
  · rw [← named]
    exact (Subroutine.headLines_sublist _ _).subset (List.mem_map_of_mem member)

theorem isLinked_passpointers (ctx : Context) :
    ctx.IsLinked (ctx.linkSymbol "passpointers" "") := by
  rw [linkSymbol]
  exact ctx.isLinked_of_mem_subroutines List.mem_cons_self rfl

theorem isLinked_nullifypointers (ctx : Context) :
    ctx.IsLinked (ctx.linkSymbol "nullifypointers" "") := by
  rw [linkSymbol]
  exact ctx.isLinked_of_mem_subroutines (List.mem_cons_of_mem _ List.mem_cons_self) rfl

theorem isLinked_data (ctx : Context) (fixed : ¬ctx.isFree = true) :
    ctx.IsLinked (ctx.linkSymbol "data" "") := by
  have member : ctx.dataRoutine ∈ ctx.subroutines := by
    rw [subroutines_eq, if_neg fixed]
    exact List.mem_append_right _ List.mem_cons_self
  rw [linkSymbol]
  exact ctx.isLinked_of_mem_subroutines member rfl

/-- Every function that the tables point to can be linked. -/
theorem isLinked_of_mem_binderSymbols (ctx : Context) {symbol : String}
    (member : symbol ∈ ctx.package.binderSymbols) : ctx.IsLinked symbol := by
  rw [package_binderSymbols, List.mem_map] at member
  obtain ⟨subroutine, own, rfl⟩ := member
  refine ctx.isLinked_of_mem_subroutines ?_ rfl
  rw [subroutines_eq, List.mem_append, List.mem_append]
  exact Or.inl (Or.inr own)

/-- What the host calls when it loads the module is in the foreign source. -/
theorem isLinked_of_mem_bindingSteps (ctx : Context) {callee : String}
    (member : .call callee ∈ ctx.bindingSteps) : ctx.IsLinked callee := by
  rw [bindingSteps, List.mem_append, List.mem_append, List.mem_ite_nil_left,
    List.mem_ite_nil_right] at member
  rcases member with (first | ⟨fixed, last⟩) | ⟨-, allocation⟩
  · have callees : callee = ctx.linkSymbol "passpointers" "" ∨
        callee = ctx.linkSymbol "nullifypointers" "" := by
      simpa using first
    rcases callees with rfl | rfl
    · exact ctx.isLinked_passpointers
    · exact ctx.isLinked_nullifypointers
  · rw [List.mem_singleton, StartStep.call.injEq] at last
    exact last ▸ ctx.isLinked_data fixed
  · simp at allocation

/-- The line of such a call. -/
theorem callLine_mem_hostLines (ctx : Context) {callee : String}
    (member : .call callee ∈ ctx.bindingSteps) : .ok ("  " ++ callee ++ "();") ∈ ctx.hostLines := by
  have init : .definition ctx.initDefinition ∈ ctx.hostItems := by
    simp only [hostItems, moduleInitItems, List.mem_append]
    exact Or.inr (by simp)
  have step : "  " ++ callee ++ "();" ∈ ctx.bindingSteps.map StartStep.text :=
    List.mem_map_of_mem member
  have inside : "  " ++ callee ++ "();" ∈ ctx.creationLines ++ ctx.packageLines ++
      ctx.bindingSteps.map StartStep.text ++ ctx.registrationLines ++ ["  return m;"] := by
    simp only [List.mem_append, step, true_or, or_true]
  refine List.mem_flatMap.mpr ⟨_, init, List.mem_cons_of_mem _ (List.mem_append_left _ ?_)⟩
  exact List.mem_cons_of_mem _ (List.mem_map_of_mem inside)

/-- A prototype, as it stands in the host file. -/
theorem prototypeLine_mem_hostLines (ctx : Context) {prototype : Prototype}
    (member : .prototype prototype ∈ ctx.hostItems) :
    .ok ("extern " ++ prototype.result ++ prototype.name ++ "(" ++ join "," prototype.parameters ++
      ");") ∈ ctx.hostLines :=
  List.mem_flatMap.mpr ⟨_, member, List.mem_cons_self⟩

/-- The prototypes of binders are of those that the tables name. -/
theorem map_name_binderPrototypes (ctx : Context) :
    (ctx.package.scalars.flatMap scalarPrototypes ++
      ctx.package.arrays.flatMap arrayPrototypes).map Prototype.name =
        ctx.package.binderSymbols := by
  have scalarNames (scalar : ScalarDescriptor) : (scalarPrototypes scalar).map Prototype.name =
      scalar.setter.toList ++ scalar.getter.toList := by
    rw [scalarPrototypes]
    cases scalar.setter <;> cases scalar.getter <;> rfl
  have arrayNames (array : ArrayDescriptor) : (arrayPrototypes array).map Prototype.name =
      array.setter.toList ++ array.getter.toList := by
    rw [arrayPrototypes]
    cases array.setter <;> cases array.getter <;> rfl
  rw [List.map_append, List.map_flatMap, List.map_flatMap, Package.binderSymbols]
  simp only [scalarNames, arrayNames]

/-- What the host file declares. -/
theorem prototype_mem_hostItems_iff (ctx : Context) (prototype : Prototype) :
    .prototype prototype ∈ ctx.hostItems ↔
      .prototype prototype ∈ ctx.prototypeItems ∨
        .prototype prototype ∈ ctx.binderPrototypeItems := by
  have noTable (storage type size table : String) (rows : List String) :
      .prototype prototype ∉ tableItems storage type size table rows := by
    simp [tableItems]
  have noExternal : .prototype prototype ∉ ctx.externalTableItems := by simp [externalTableItems]
  have noWrapper : .prototype prototype ∉ ctx.wrappersItems := by simp [wrappersItems, wrapperItems]
  have noMethod : .prototype prototype ∉ ctx.methodTableItems := by simp [methodTableItems]
  have noStatic : .prototype prototype ∉ ctx.staticShapeItems := by simp [staticShapeItems]
  have noDynamic : .prototype prototype ∉ ctx.dynamicShapeItems := by
    simp [dynamicShapeItems, groupShapeItem]
  have noBinder : .prototype prototype ∉ ctx.binderItems := by simp [binderItems, binderItem]
  have noInit : .prototype prototype ∉ ctx.moduleInitItems := by simp [moduleInitItems]
  simp only [hostItems, scalarTableItems, arrayTableItems, List.mem_append, noTable, noExternal,
    noWrapper, noMethod, noStatic, noDynamic, noBinder, noInit, or_false]

/-- **What the host file declares** is a routine of the interface, a constructor of a record type,
or in the foreign source. -/
theorem declared_of_mem_hostItems (ctx : Context) {prototype : Prototype}
    (member : .prototype prototype ∈ ctx.hostItems) :
    (∃ routine ∈ ctx.inventory.routines, prototype = ctx.routinePrototype routine) ∨
      (∃ record ∈ ctx.inventory.records, prototype = ctx.constructorPrototype record) ∨
      ctx.IsLinked prototype.name := by
  rcases (ctx.prototype_mem_hostItems_iff prototype).1 member with head | binder
  · simp only [prototypeItems, List.mem_append, List.mem_ite_nil_left, List.mem_map, List.mem_cons,
      List.not_mem_nil, or_false, false_or, reduceCtorEq, Item.prototype.injEq] at head
    rcases head with (((rfl | rfl) | ⟨fixed, rfl⟩) | ⟨routine, known, rfl⟩) | ⟨record, known, rfl⟩
    · exact Or.inr (Or.inr ctx.isLinked_passpointers)
    · exact Or.inr (Or.inr ctx.isLinked_nullifypointers)
    · exact Or.inr (Or.inr (ctx.isLinked_data fixed))
    · exact Or.inl ⟨routine, known, rfl⟩
    · exact Or.inr (Or.inl ⟨record, known, rfl⟩)
  · refine Or.inr (Or.inr (ctx.isLinked_of_mem_binderSymbols ?_))
    rw [binderPrototypeItems, List.mem_map] at binder
    obtain ⟨declared, known, same⟩ := binder
    rw [Item.prototype.injEq] at same
    rw [← map_name_binderPrototypes, ← same]
    exact List.mem_map_of_mem known

/-! ### Closure -/

/-- **Linkage closure.** The subroutines in the foreign source are the two for all variables, the
binders of single variables, and in fixed form the one for initial values; the tables name the
binders, all and in this order, as the linker knows them. What the host calls when it loads the
module is one of the subroutines. So is all that it declares beside routines and constructors. What
the subroutines call is defined in the host file, or initializes an instance. Heads, calls, prototypes
and definitions are given by their lines. -/
theorem linkage_closed (ctx : Context) :
    (∃ own : List Subroutine,
      ctx.linkageStatements.heads =
        [ctx.foreignSymbol "passpointers" "", ctx.foreignSymbol "nullifypointers" ""] ++
          own.map Subroutine.name ++ (if ctx.isFree then [] else [ctx.foreignSymbol "data" ""]) ∧
      ([headLine ctx.options.dialect (ctx.foreignSymbol "passpointers" "") [],
          headLine ctx.options.dialect (ctx.foreignSymbol "nullifypointers" "") []] ++
        own.map (fun binder => headLine ctx.options.dialect binder.name binder.parameters) ++
        (if ctx.isFree then []
          else [headLine ctx.options.dialect (ctx.foreignSymbol "data" "") []])).Sublist
        ctx.linkageLines ∧
      (∀ binder ∈ own, ∃ v ∈ ctx.inventory.scalars ++ ctx.inventory.arrays,
        binder.name = ctx.foreignSymbol "setpointer" v.name ∨
          binder.name = ctx.foreignSymbol "getpointer" v.name) ∧
      ctx.package.binderSymbols =
        own.map fun binder => ctx.options.toolchain.linkName binder.name) ∧
    (∀ callee, .call callee ∈ ctx.bindingSteps →
      .ok ("  " ++ callee ++ "();") ∈ ctx.hostLines ∧ ctx.IsLinked callee) ∧
    (∀ prototype, .prototype prototype ∈ ctx.hostItems →
      .ok ("extern " ++ prototype.result ++ prototype.name ++ "(" ++
        join "," prototype.parameters ++ ");") ∈ ctx.hostLines ∧
      ((∃ routine ∈ ctx.inventory.routines, prototype = ctx.routinePrototype routine) ∨
        (∃ record ∈ ctx.inventory.records, prototype = ctx.constructorPrototype record) ∨
        ctx.IsLinked prototype.name)) ∧
    ∀ statement ∈ ctx.linkageStatements.statements, ∀ callee,
      statement.callee? = some callee →
      (∃ indent arguments, statement.line.layOut ctx.options.dialect =
        callingLine ctx.options.dialect indent callee arguments) ∧ ctx.IsCallable callee := by
  refine ⟨⟨ctx.ownBinders, ?_, ctx.headLines_sublist, ?_, ctx.package_binderSymbols⟩, ?_, ?_, ?_⟩
  · rw [heads_linkageStatements, subroutines_eq, List.map_append, List.map_append]
    cases ctx.isFree <;> rfl
  · intro binder own
    exact ctx.name_of_mem_ownBinders own
  · intro callee member
    exact ⟨ctx.callLine_mem_hostLines member, ctx.isLinked_of_mem_bindingSteps member⟩
  · intro prototype member
    exact ⟨ctx.prototypeLine_mem_hostLines member, ctx.declared_of_mem_hostItems member⟩
  · intro statement member callee called
    refine ⟨?_, ctx.isCallable_of_mem_linkage member called⟩
    cases statement with
    | call indent name arguments =>
        obtain rfl := Option.some.inj called
        exact ⟨indent, arguments, layOut_call _ indent name arguments⟩
    | _ => cases called

end Context

end ForeignGlue
