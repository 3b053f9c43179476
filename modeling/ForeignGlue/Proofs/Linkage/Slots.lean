/-
**One numbering of the variables.**

The position of a variable among the scalars or the arrays of a module is its slot. Four parts of a
module count these positions, each for itself and each with variables of its own that it skips: the
descriptor tables, the dictionary in which the names of a bound are looked up, the subroutine that
hands addresses over, and the one that clears pointers.

* `Context.scalars_describe`, `Context.arrays_describe`: the tables skip nothing;
* `Context.exists_scalar_of_resolve`: a name that resolves to a slot is that of the scalar in it;
* `Context.written_passPointers`: which variables are handed over, with which slots and on which lines;
* `Context.written_nullifyPointers`: which pointers are cleared, and on which lines.

So the C expression for a name in a bound reads the slot that the scalar of this name is handed to.
-/

import ForeignGlue.Proofs.Linkage.Closure
import ForeignGlue.Proofs.ScalarIndex.Lookup
import Mathlib.Data.List.Forall2

namespace ForeignGlue

open ForeignGlue.Source ForeignGlue.Text

/-! ### What a table says of a variable -/

/-- A descriptor that is not bound yet and says of a scalar what its declaration says. -/
structure ScalarDescriptor.Describes (types : TypeTable) (scalar : ScalarDescriptor)
    (v : Variable) : Prop where
  name : scalar.name = v.name
  group : scalar.group = v.group
  element : scalar.element = types.element v.type
  typeTag : scalar.typeTag = v.type.tag
  attributes : scalar.attributes = v.attributes
  comment : scalar.comment = v.comment
  dynamic : scalar.dynamic = v.isDynamic
  unbound : scalar.address = none

/-- A descriptor that has no buffer yet and says of an array what its declaration says. -/
structure ArrayDescriptor.Describes (types : TypeTable) (array : ArrayDescriptor)
    (v : Variable) : Prop where
  name : array.name = v.name
  group : array.group = v.group
  element : array.element = types.element v.type
  attributes : array.attributes = v.attributes
  comment : array.comment = v.comment
  shapeText : array.shapeText = v.shape
  rank : array.rank = v.rank
  dynamic : array.dynamic = v.isDynamic
  unbound : array.address = none ∧ array.extents = []

/-! ### What a subroutine hands over and clears -/

/-- A call that hands a variable to a slot: the function that takes it, the slot as it is spelled,
and what is handed over. -/
structure BinderCall where
  binder : String
  index : String
  handed : String
  deriving DecidableEq, Repr

/-- The line of such a call. -/
def BinderCall.line (dialect : Dialect) (call : BinderCall) : String :=
  callingLine dialect 2 call.binder [call.index, call.handed]

/-- What is read in a statement, with the line that it is written on. -/
def Source.Statement.withLine {α : Type} (dialect : Dialect) (read : Statement → Option α)
    (statement : Statement) : Option (α × String) :=
  (read statement).map (·, statement.line.layOut dialect)

/-- The pointer that a statement clears. -/
def Source.Statement.nullified? : Statement → Option String
  | .nullify name => some name
  | _ => none

/-- The pointers that a subroutine clears, in order. -/
def Subroutine.nullified (subroutine : Subroutine) : List String :=
  (Draft.statements subroutine.body).filterMap Statement.nullified?

theorem Source.Draft.statements_ofList (statements : List Statement) :
    Draft.statements (Draft.ofList statements) = statements := by
  rw [Draft.statements, Draft.ofList, List.filterMap_map]
  exact List.filterMap_some

/-- What is read in statements, whether or not their lines are told. -/
theorem Source.Statement.map_fst_withLine {α : Type} (dialect : Dialect) (read : Statement → Option α)
    (statements : List Statement) :
    (statements.filterMap (Statement.withLine dialect read)).map Prod.fst =
      statements.filterMap read := by
  rw [List.map_filterMap]
  refine List.filterMap_congr fun statement _ => ?_
  rw [Statement.withLine, Option.map_map]
  exact Option.map_id'

namespace Context

/-- The functions of the host that take the address of a variable: a plain scalar, an instance and
an array. -/
def addressTakers (ctx : Context) : List String :=
  ["setscalarpointers", "setderivedtypepointers", "setarraypointers"].map
    fun role => ctx.foreignSymbol role ""

/-- The binder call that a statement is. Functions that take an address have two arguments. The
initialization of an instance has five, so that it is none of them even if a record type is named
so that its symbol is one of theirs. -/
def binderCall? (ctx : Context) : Statement → Option BinderCall
  | .call _ callee [index, handed] =>
    if callee ∈ ctx.addressTakers then some ⟨callee, index, handed⟩ else none
  | _ => none

/-- The binder calls of a subroutine, in order. -/
def binderCalls (ctx : Context) (subroutine : Subroutine) : List BinderCall :=
  (Draft.statements subroutine.body).filterMap ctx.binderCall?

/-- The call for a scalar in a slot. Of an instance the handle is handed over. -/
def scalarCall (ctx : Context) (slot : Nat) (v : Variable) : BinderCall :=
  if v.type.isRecord then
    ⟨ctx.foreignSymbol "setderivedtypepointers" "", ctx.slotLiteral slot, v.name ++ "%cobj__"⟩
  else ⟨ctx.foreignSymbol "setscalarpointers" "", ctx.slotLiteral slot, v.name⟩

/-- The call for an array in a slot. Of a dynamic one the pointer to it is handed over. -/
def arrayCall (ctx : Context) (slot : Nat) (v : Variable) : BinderCall :=
  ⟨ctx.foreignSymbol "setarraypointers" "", ctx.slotLiteral slot,
    if v.isDynamic then "p" ++ v.name else v.name⟩

/-- The static scalars with their slots, in table order. -/
def staticScalars (ctx : Context) : List (Variable × Nat) :=
  ctx.inventory.scalars.zipIdx.filter fun entry => !entry.1.isDynamic

/-- The arrays that are bound together, with their slots, in table order: in free form the static
ones, in fixed form all. -/
def sharedArrays (ctx : Context) : List (Variable × Nat) :=
  ctx.inventory.arrays.zipIdx.filter fun entry => !(entry.1.isDynamic && ctx.isFree)

/-! ### The tables -/

theorem scalars_describe (ctx : Context) :
    List.Forall₂ (ScalarDescriptor.Describes ctx.types) ctx.package.scalars
      ctx.inventory.scalars := by
  rw [package, List.forall₂_map_left_iff, List.forall₂_same]
  intro v _
  exact ⟨rfl, rfl, rfl, rfl, rfl, rfl, rfl, rfl⟩

theorem arrays_describe (ctx : Context) :
    List.Forall₂ (ArrayDescriptor.Describes ctx.types) ctx.package.arrays
      ctx.inventory.arrays := by
  rw [package, List.forall₂_map_left_iff, List.forall₂_same]
  intro v _
  exact ⟨rfl, rfl, rfl, rfl, rfl, rfl, rfl, rfl, rfl, rfl⟩

/-! ### The dictionary -/

/-- **A name and its slot**: the scalar in the slot has the name. -/
theorem exists_scalar_of_resolve {ctx : Context} {name : String} {slot : Nat}
    (resolved : ctx.scope.resolve name = .ok (.own slot)) :
    ∃ v, ctx.inventory.scalars[slot]? = some v ∧ sameName v.name name := by
  rw [Scope.resolve_eq_own_iff] at resolved
  have found : (SlotMap.ofScalars ctx.inventory.scalars).get? (lower name) = some slot := by
    rw [← ctx.inventory.dictionary_eq]
    exact resolved
  obtain ⟨v, listed, named⟩ := SlotMap.getElem?_of_get? found
  exact ⟨v, listed, sameName_iff.mpr named⟩

theorem slotText_own (ctx : Context) (slot : Nat) :
    ctx.scope.slotText (.own slot) = s!"*(long *){ctx.package.scalarTable}[{slot}].data" := by
  have same : ctx.inventory.index.module = ctx.scope.module := rfl
  rw [← Scope.slotText_external ctx.scope same]
  rfl

/-! ### The calls -/

/-- The call that a statement is, with its line. -/
def writtenCall? (ctx : Context) : Statement → Option (BinderCall × String) :=
  Statement.withLine ctx.options.dialect ctx.binderCall?

/-- A call as it is written. -/
def written (ctx : Context) (call : BinderCall) : BinderCall × String :=
  (call, call.line ctx.options.dialect)

theorem writtenCall?_of_mem (ctx : Context) {callee : String} (index handed : String)
    (taker : callee ∈ ctx.addressTakers) :
    ctx.writtenCall? (.call 2 callee [index, handed]) = some (ctx.written ⟨callee, index, handed⟩) := by
  have call : ctx.binderCall? (.call 2 callee [index, handed]) = some ⟨callee, index, handed⟩ :=
    if_pos taker
  rw [writtenCall?, Statement.withLine, call, layOut_call]
  rfl

theorem mem_addressTakers (ctx : Context) (role : String)
    (known : role ∈ ["setscalarpointers", "setderivedtypepointers", "setarraypointers"]) :
    ctx.foreignSymbol role "" ∈ ctx.addressTakers :=
  List.mem_map_of_mem known

/-- Of the two calls for an instance the first initializes it. -/
theorem filterMap_passScalar (ctx : Context) (slot : Nat) (v : Variable) :
    (ctx.passScalar slot v).filterMap ctx.writtenCall? = [ctx.written (ctx.scalarCall slot v)] := by
  have plain := ctx.mem_addressTakers "setscalarpointers" (by decide)
  have handle := ctx.mem_addressTakers "setderivedtypepointers" (by decide)
  unfold passScalar scalarCall
  cases v.type with
  | record typeName =>
      rw [List.filterMap_cons_none rfl, List.filterMap_cons_some (ctx.writtenCall?_of_mem _ _ handle)]
      rfl
  | _ =>
      rw [List.filterMap_cons_some (ctx.writtenCall?_of_mem _ _ plain)]
      rfl

theorem filterMap_passArray (ctx : Context) (slot : Nat) (v : Variable) :
    (ctx.passArray slot v).filterMap ctx.writtenCall? =
      if v.isDynamic && ctx.isFree then [] else [ctx.written (ctx.arrayCall slot v)] := by
  have taker := ctx.mem_addressTakers "setarraypointers" (by decide)
  unfold passArray arrayCall isFree
  cases v.isDynamic <;> cases ctx.options.dialect
  all_goals first
    | rfl
    | rw [List.filterMap_cons_some (ctx.writtenCall?_of_mem _ _ taker)]; rfl

/-- What is found in the statements of a loop over a table: one thing for each variable that is not
skipped, with the slot of this variable. -/
theorem filterMap_flatten_mapIdx {α : Type} {read : Statement → Option α}
    {write : Nat → Variable → List Statement} {skip : Variable → Bool} {found : Nat → Variable → α}
    (each : ∀ slot v, (write slot v).filterMap read = if skip v then [] else [found slot v])
    (table : List Variable) :
    (table.mapIdx write).flatten.filterMap read =
      (table.zipIdx.filter fun entry => !skip entry.1).map
        fun entry => found entry.2 entry.1 := by
  rw [List.mapIdx_eq_zipIdx_map]
  induction table.zipIdx with
  | nil => rfl
  | cons entry entries ih =>
      rw [List.map_cons, List.flatten_cons, List.filterMap_append, each, ih, List.filter_cons]
      cases skip entry.1 <;> rfl

theorem filterMap_useGroups (ctx : Context) {α : Type} (indent : Nat) (read : Statement → Option α)
    (use : ∀ group, read (.use group) = none)
    (useMacro : ∀ indent group, read (.useMacro indent group) = none) :
    (ctx.useGroups indent).filterMap read = [] := by
  rw [List.filterMap_eq_nil_iff]
  intro statement member
  obtain ⟨group, -, rfl⟩ := List.mem_map.1 member
  cases ctx.options.dialect with
  | free => exact use group
  | fixed => exact useMacro indent group

/-- The calls by which variables are handed over, in table order: those for the static scalars, then
those for the arrays that have no binder of their own. -/
def sharedCalls (ctx : Context) : List BinderCall :=
  ctx.staticScalars.map (fun entry => ctx.scalarCall entry.2 entry.1) ++
    ctx.sharedArrays.map fun entry => ctx.arrayCall entry.2 entry.1

/-- **What is handed over**: the static scalars, and the arrays that have no binder of their own,
in table order, each with its slot and on a line of its own. -/
theorem written_passPointers (ctx : Context) :
    (Draft.statements ctx.passPointers.body).filterMap ctx.writtenCall? =
      ctx.sharedCalls.map ctx.written := by
  have eachScalar (slot : Nat) (v : Variable) :
      (if v.isDynamic then [] else ctx.passScalar slot v).filterMap ctx.writtenCall? =
        if v.isDynamic then [] else [ctx.written (ctx.scalarCall slot v)] := by
    cases v.isDynamic with
    | true => rfl
    | false => exact ctx.filterMap_passScalar slot v
  have scalars := filterMap_flatten_mapIdx eachScalar ctx.inventory.scalars
  have arrays := filterMap_flatten_mapIdx ctx.filterMap_passArray ctx.inventory.arrays
  rw [passPointers, Draft.statements_ofList, List.filterMap_append, List.filterMap_append,
    List.filterMap_append, scalars, arrays, ctx.filterMap_useGroups 2 _ (fun _ => rfl) fun _ _ => rfl,
    sharedCalls, List.map_append, List.map_map, List.map_map]
  exact List.append_nil _

theorem binderCalls_passPointers (ctx : Context) :
    ctx.binderCalls ctx.passPointers = ctx.sharedCalls := by
  have calls := congrArg (List.map Prod.fst) ctx.written_passPointers
  rw [writtenCall?, Statement.map_fst_withLine, List.map_map] at calls
  exact calls.trans (List.map_id _)

/-- **What is cleared**: the dynamic variables, scalars before arrays, each on a line of its own. -/
theorem written_nullifyPointers (ctx : Context) :
    (Draft.statements ctx.nullifyPointers.body).filterMap
        (Statement.withLine ctx.options.dialect Statement.nullified?) =
      ((ctx.inventory.scalars ++ ctx.inventory.arrays).filter Variable.isDynamic).map
        fun v => (v.name, nullifyLine ctx.options.dialect v.name) := by
  rw [nullifyPointers, Draft.statements_ofList, List.filterMap_append, List.filterMap_append,
    List.filterMap_map, ctx.filterMap_useGroups 2 _ (fun _ => rfl) fun _ _ => rfl]
  simp [Function.comp_def, Statement.withLine, Statement.nullified?, layOut_nullify]

theorem nullified_nullifyPointers (ctx : Context) :
    ctx.nullifyPointers.nullified =
      ((ctx.inventory.scalars ++ ctx.inventory.arrays).filter Variable.isDynamic).map
        Variable.name := by
  have names := congrArg (List.map Prod.fst) ctx.written_nullifyPointers
  rw [Statement.map_fst_withLine, List.map_map] at names
  exact names

/-- The slot of a table that fits 63 bits is spelled as it is. -/
theorem slotLiteral_of_lt (ctx : Context) {slot : Nat} (small : slot < 0x8000000000000000) :
    ctx.slotLiteral slot =
      "int(" ++ toString slot ++ "," ++ toString ctx.options.indexKind.toNat ++ ")" := by
  have word : wordCount = 0x10000000000000000 := rfl
  have same : (slot : Int).bmod wordCount = slot := by
    rw [Int.bmod_eq_of_le (by omega) (by omega)]
  rw [slotLiteral, Options.slotLiteral, same, Options.indexLiteral]
  rfl

theorem mem_staticScalars (ctx : Context) {v : Variable} {slot : Nat} :
    (v, slot) ∈ ctx.staticScalars ↔ ctx.inventory.scalars[slot]? = some v ∧ v.isDynamic = false := by
  rw [staticScalars, List.mem_filter, List.mem_zipIdx_iff_getElem?, Bool.not_eq_true']

/-- A static scalar is handed to its slot. -/
theorem scalarCall_mem_binderCalls (ctx : Context) {v : Variable} {slot : Nat}
    (listed : ctx.inventory.scalars[slot]? = some v) (static : v.isDynamic = false) :
    ctx.scalarCall slot v ∈ ctx.binderCalls ctx.passPointers := by
  rw [binderCalls_passPointers, sharedCalls, List.mem_append]
  exact .inl (List.mem_map.mpr ⟨(v, slot), ctx.mem_staticScalars.mpr ⟨listed, static⟩, rfl⟩)

/-! ### Agreement -/

/-- What it means that a module numbers its variables in one way. -/
structure NumbersAlike (ctx : Context) : Prop where
  /-- Each slot of the scalar table describes the scalar that has it. -/
  scalars : List.Forall₂ (ScalarDescriptor.Describes ctx.types) ctx.package.scalars
    ctx.inventory.scalars
  /-- Each slot of the array table describes the array that has it. -/
  arrays : List.Forall₂ (ArrayDescriptor.Describes ctx.types) ctx.package.arrays
    ctx.inventory.arrays
  /-- A name resolves to a slot of the table whose scalar has this name. -/
  resolved : ∀ name slot, ctx.scope.resolve name = .ok (.own slot) →
    slot < ctx.package.scalars.length ∧
      ∃ v, ctx.inventory.scalars[slot]? = some v ∧ sameName v.name name
  /-- The first two subroutines bind all variables and clear all pointers. -/
  written : [ctx.passPointers, ctx.nullifyPointers] <+: ctx.subroutines
  /-- One call for each static scalar, then one for each array that has no binder of its own. -/
  passed : ctx.binderCalls ctx.passPointers =
    ctx.staticScalars.map (fun entry => ctx.scalarCall entry.2 entry.1) ++
      ctx.sharedArrays.map fun entry => ctx.arrayCall entry.2 entry.1
  /-- The lines of these calls. -/
  passedLines : (Draft.statements ctx.passPointers.body).filterMap
      (Statement.withLine ctx.options.dialect ctx.binderCall?) =
    (ctx.binderCalls ctx.passPointers).map fun call =>
      (call, callingLine ctx.options.dialect 2 call.binder [call.index, call.handed])
  /-- Slots are spelled as decimal numbers of the index kind. -/
  spelled : ∀ slot < 0x8000000000000000, ctx.slotLiteral slot =
    "int(" ++ toString slot ++ "," ++ toString ctx.options.indexKind.toNat ++ ")"
  /-- The pointers that are cleared are the dynamic variables. -/
  cleared : ctx.nullifyPointers.nullified =
    ((ctx.inventory.scalars ++ ctx.inventory.arrays).filter Variable.isDynamic).map Variable.name
  /-- The lines that clear them. -/
  clearedLines : (Draft.statements ctx.nullifyPointers.body).filterMap
      (Statement.withLine ctx.options.dialect Statement.nullified?) =
    ((ctx.inventory.scalars ++ ctx.inventory.arrays).filter Variable.isDynamic).map
      fun v => (v.name, nullifyLine ctx.options.dialect v.name)
  /-- The C expression for a name reads a slot that holds the scalar of this name; if the scalar is
  static, this is what is handed to the slot. -/
  read : ∀ name slot, Expression.IsIdentifier name.toList →
    ctx.scope.resolve name = .ok (.own slot) →
    ctx.scope.hostForm .none name = .ok s!"*(long *){ctx.package.scalarTable}[{slot}].data" ∧
      ∃ v, ctx.inventory.scalars[slot]? = some v ∧ sameName v.name name ∧
        (v.isDynamic = false → ctx.scalarCall slot v ∈ ctx.binderCalls ctx.passPointers)

/-- **One numbering.** In every module the tables, the dictionary, the calls that hand variables over
and the C expressions of bounds agree on the slot of every variable. -/
theorem numbers_alike (ctx : Context) : ctx.NumbersAlike where
  scalars := ctx.scalars_describe
  arrays := ctx.arrays_describe
  resolved := by
    intro name slot resolved
    obtain ⟨v, listed, named⟩ := exists_scalar_of_resolve resolved
    refine ⟨?_, v, listed, named⟩
    rw [package, List.length_map]
    exact (List.getElem?_eq_some_iff.mp listed).1
  written := List.prefix_append _ _
  passed := ctx.binderCalls_passPointers
  passedLines := by
    rw [binderCalls_passPointers]
    exact ctx.written_passPointers
  spelled slot small := ctx.slotLiteral_of_lt small
  cleared := ctx.nullified_nullifyPointers
  clearedLines := ctx.written_nullifyPointers
  read := by
    intro name slot isName resolved
    obtain ⟨v, listed, named⟩ := exists_scalar_of_resolve resolved
    refine ⟨?_, v, listed, named, fun static => ctx.scalarCall_mem_binderCalls listed static⟩
    rw [Scope.hostForm_of_isIdentifier _ isName, resolved, ← slotText_own]
    rfl

/-- Skips of all kinds: a pointer before a plain scalar and an instance, and a dynamic array before
a static one. -/
def mixedContext (dialect : Dialect) : Context where
  inventory := .ofInterface
    { module := "wxy"
      declarations := [.variable { Variable.scalar "p" .real "g" with dynamic := true },
        .variable (.scalar "Nx" .integer "g"), .variable (.scalar "r" (.record "point") "g"),
        .variable { Variable.array "d" .real "g" [⟨"1", "nx"⟩] with dynamic := true },
        .variable (.array "a" .real "g" [⟨"1", "nx"⟩])] }
  options := { dialect }

/-- The numbering of a module in either form: its calls and their lines in fixed form, and in free form
the lines that clear its pointers and the C text of a name. -/
theorem numbers_alike_mixed :
    ((mixedContext .fixed).binderCalls (mixedContext .fixed).passPointers =
      [⟨"wxysetscalarpointers", "int(1,8)", "Nx"⟩,
        ⟨"wxysetderivedtypepointers", "int(2,8)", "r%cobj__"⟩,
        ⟨"wxysetarraypointers", "int(0,8)", "pd"⟩, ⟨"wxysetarraypointers", "int(1,8)", "a"⟩]) ∧
    (((Draft.statements (mixedContext .fixed).passPointers.body).filterMap
        (Statement.withLine .fixed (mixedContext .fixed).binderCall?)).map Prod.snd =
      ["      call wxysetscalarpointers(int(1,8),Nx)",
        "      call wxysetderivedtypepointers(int(2,8),r%cobj__)",
        "      call wxysetarraypointers(int(0,8),pd)", "      call wxysetarraypointers(int(1,8),a)"]) ∧
    (((Draft.statements (mixedContext .free).nullifyPointers.body).filterMap
        (Statement.withLine .free Statement.nullified?)).map Prod.snd =
      ["  NULLIFY(p)", "  NULLIFY(d)"]) ∧
    (mixedContext .free).sharedArrays.map Prod.snd = [1] ∧
    (mixedContext .free).scope.hostForm .none "nx" = .ok "*(long *)wxy_fscalars[1].data" := by
  have calls : (mixedContext .fixed).binderCalls (mixedContext .fixed).passPointers =
      [⟨"wxysetscalarpointers", "int(1,8)", "Nx"⟩,
        ⟨"wxysetderivedtypepointers", "int(2,8)", "r%cobj__"⟩,
        ⟨"wxysetarraypointers", "int(0,8)", "pd"⟩, ⟨"wxysetarraypointers", "int(1,8)", "a"⟩] := by
    rw [(numbers_alike (mixedContext .fixed)).passed]
    decide +kernel
  have lines := (numbers_alike (mixedContext .fixed)).passedLines
  have cleared := (numbers_alike (mixedContext .free)).clearedLines
  rw [calls] at lines
  refine ⟨calls, ?_, ?_, by decide +kernel, ?_⟩
  · refine (congrArg (List.map Prod.snd) lines).trans ?_
    decide +kernel
  · refine (congrArg (List.map Prod.snd) cleared).trans ?_
    decide +kernel
  · have isName : Expression.IsIdentifier "nx".toList := ⟨'n', ['x'], rfl, rfl, rfl⟩
    exact ((numbers_alike (mixedContext .free)).read "nx" 1 isName (by decide +kernel)).1

end Context

end ForeignGlue
