/-
**Host lines that access no slot.**

All lines of the host file but those with bounds in them, and those that add up times, are free of
accesses to slots, provided that names are plain: a name that is written as it is must not bring quotes,
backslashes, stars or parentheses along. What is quoted with escapes, such as comments, may say
anything.

* `Context.IsPlain`: the names that are written as they are;
* `Source.Item.isQuiet_prototype`, `quiet_tableItems`, `Conversion.quiet_lines`: what many lines have in
  common;
* `Context.quiet_prototypeItems`, `Context.quiet_scalarTableItems` and so on: the parts of the file that
  access no slot;
* `SizingRead.quiet_line`: what is read from an argument is no slot.
-/

import ForeignGlue.Generation
import ForeignGlue.Proofs.HostForm.SlotReads
import Mathlib.Tactic.MkIffOfInductiveProp

namespace ForeignGlue

open ForeignGlue.CSource ForeignGlue.Source ForeignGlue.Text

/-! ### Plain names -/

/-- A bound without quotes. -/
def Bound.IsUnquoted (bound : Bound) : Prop :=
  '"' ∉ bound.low.toList ∧ '"' ∉ bound.high.toList

instance (bound : Bound) : Decidable bound.IsUnquoted :=
  inferInstanceAs (Decidable (_ ∧ _))

/-- **The names that the host file has as they are** are plain, and so is other text that it has as it
is. -/
@[mk_iff]
structure Context.IsPlain (ctx : Context) : Prop where
  tables : ctx.scope.NamesTables
  routine : ∀ routine ∈ ctx.inventory.routines, CSource.IsPlain routine.name
  argument : ∀ routine ∈ ctx.inventory.routines, ∀ argument ∈ routine.arguments,
    CSource.IsPlain argument.name ∧ CSource.IsPlain argument.type.tag
  record : ∀ record ∈ ctx.inventory.records, CSource.IsPlain record.name
  declared : ∀ v ∈ ctx.inventory.scalars ++ ctx.inventory.arrays,
    CSource.IsPlain v.name ∧ CSource.IsPlain v.group ∧ CSource.IsPlain v.type.tag
  filled : ∀ v ∈ ctx.inventory.arrays, CSource.IsCode (Context.fillValue v)
  argumentBound : ∀ routine ∈ ctx.inventory.routines, ∀ argument ∈ routine.arguments,
    ∀ bound ∈ argument.bounds, bound.IsUnquoted
  arrayBound : ∀ v ∈ ctx.inventory.arrays, ∀ bound ∈ v.bounds, bound.IsUnquoted
  toolchain : CSource.IsPlain ctx.options.toolchain.name

instance (ctx : Context) : Decidable ctx.IsPlain :=
  decidable_of_iff' _ ctx.isPlain_iff

namespace Symbol

theorem mem_of_mem_takeBytes {room : Nat} {cs : List Char} {c : Char}
    (member : c ∈ takeBytes room cs) : c ∈ cs := by
  induction cs generalizing room with
  | nil => cases member
  | cons d cs ih =>
      rw [takeBytes] at member
      split at member
      · exact List.mem_cons.mpr ((List.mem_cons.mp member).imp_right ih)
      · cases member

theorem isNameChar_letter (byte : UInt8) : isNameChar (letter byte) = true := by
  have known : ∀ place < 26, isNameChar (Char.ofNat (97 + place)) = true := by decide
  exact known _ (Nat.mod_lt _ (by decide))

/-- Folding keeps a name plain: it cuts, and puts letters behind. -/
theorem isPlain_fold {name : String} (plain : IsPlain name) : IsPlain (fold name) := by
  unfold fold
  split
  · exact plain
  · intro c member
    rw [String.toList_ofList, List.mem_append, List.mem_map] at member
    rcases member with kept | ⟨byte, -, rfl⟩
    · exact plain c (mem_of_mem_takeBytes kept)
    · exact ne_of_isNameChar (isNameChar_letter byte)

end Symbol

/-- A toolchain puts a symbol in lower case and adds underscores. -/
theorem Toolchain.isPlain_linkName {toolchain : Toolchain} {symbol : String}
    (plain : IsPlain symbol) : IsPlain (toolchain.linkName symbol) := by
  unfold linkName
  split
  · exact plain.lower
  · split
    · exact plain.lower.append (by decide)
    · exact plain.lower.append (by decide)

namespace TypeTable

theorem isPlain_host (type : ValueType) : IsPlain (standard.host type) := by
  cases type with
  | record name => exact (by decide : IsPlain "char")
  | _ => decide

theorem isPlain_element (type : ValueType) : IsPlain (standard.element type) := by
  cases type with
  | record name => exact (by decide : IsPlain "NPY_OBJECT")
  | _ => decide

theorem isPlain_result (type : ValueType) : IsPlain (standard.result type) := by
  cases type with
  | record name => exact (by decide : IsPlain "O")
  | _ => decide

/-- Numbers other than complex ones are read through the types of casts. -/
theorem host_mem_castTypes {type : ValueType} (numeric : type.isNumeric = true)
    (notComplex : (type != .complex) = true) : standard.host type ∈ castTypes := by
  cases type with
  | complex => exact absurd notComplex (by decide)
  | character => cases numeric
  | record name => cases numeric
  | _ => decide

end TypeTable

namespace Context.IsPlain

variable {ctx : Context} (plain : ctx.IsPlain)

include plain

theorem module : CSource.IsPlain ctx.module :=
  .word (all_isNameChar_of_isIdentifier plain.tables.1)

theorem linkSymbol {role name : String} (isRole : CSource.IsPlain role)
    (isName : CSource.IsPlain name) : CSource.IsPlain (ctx.linkSymbol role name) :=
  Toolchain.isPlain_linkName (Symbol.isPlain_fold ((plain.module.append isRole).append isName))

theorem routineSymbol {routine : Routine} (declared : routine ∈ ctx.inventory.routines) :
    CSource.IsPlain (ctx.routineSymbol routine) := by
  unfold Context.routineSymbol
  split
  · exact Toolchain.isPlain_linkName (plain.routine routine declared)
  · exact plain.routine routine declared

theorem wrapperName {name : String} (isName : CSource.IsPlain name) :
    CSource.IsPlain (ctx.wrapperName name) :=
  (plain.module.append (by decide)).append isName

end Context.IsPlain

/-! ### Items -/

/-- An item without accesses. -/
def Source.Item.IsQuiet (item : Item) : Prop :=
  ∀ line, .ok line ∈ item.lines → Quiet .code line .code

namespace Source

variable {text : String}

theorem quiet_single (quiet : Quiet .code text .code) :
    ∀ line, .ok line ∈ ([.ok text] : Draft String) → Quiet .code line .code := by
  intro line member
  obtain rfl := Except.ok.inj (List.mem_singleton.mp member)
  exact quiet

theorem Item.isQuiet_line (quiet : Quiet .code text .code) : (Item.line text).IsQuiet :=
  quiet_single quiet

/-- A definition is quiet if its head and its body are. -/
theorem Item.isQuiet_definition {defined : Definition}
    (head : Quiet .code (defined.lead ++ defined.name ++ defined.tail) .code)
    (body : ∀ line, .ok line ∈ defined.body → Quiet .code line .code) :
    (Item.definition defined).IsQuiet := by
  intro line member
  rcases List.mem_cons.mp member with first | later
  · obtain rfl := Except.ok.inj first
    exact head
  · exact body line later

/-- **A prototype** accesses no slot. A parameter may have no name. -/
theorem Item.isQuiet_prototype {prototype : Prototype}
    (named : Quiet .code ("extern " ++ prototype.result ++ prototype.name) .code)
    (each : ∀ parameter ∈ prototype.parameters, Settles parameter) :
    (Item.prototype prototype).IsQuiet := by
  have list : Quiet .code (join "," prototype.parameters ++ ");") .code :=
    (Settles.join each rfl rfl).followed rfl rfl
  have opens : Quiet .code "(" .code := .fixed rfl
  refine quiet_single ?_
  rw [Prototype.text, String.append_assoc]
  exact (named.append opens).append list

theorem mem_ofList {lines : List String} {line : String} :
    .ok line ∈ Draft.ofList lines ↔ line ∈ lines := by
  simp [Draft.ofList]

/-- Braces around quiet lines. -/
theorem quiet_braced {body : Draft String}
    (quiet : ∀ line, .ok line ∈ body → Quiet .code line .code) :
    ∀ line, .ok line ∈ braced body → Quiet .code line .code := by
  intro line member
  have opens : Quiet .code "\x7b" .code := .fixed rfl
  have closes : Quiet .code "\x7d" .code := .fixed rfl
  simp only [braced, List.mem_append, List.mem_cons, List.not_mem_nil, or_false,
    Except.ok.injEq] at member
  rcases member with (rfl | inside) | rfl
  · exact opens
  · exact quiet line inside
  · exact closes

end Source

/-! ### The head of the file -/

namespace Context

variable {ctx : Context} (types : ctx.types = .standard) (plain : ctx.IsPlain)

include types in
/-- A parameter, which may be a type with a star and nothing behind it. -/
theorem settles_parameter {argument : Argument} (isName : CSource.IsPlain argument.name) :
    Settles (ctx.parameter argument).text := by
  have isType : CSource.IsPlain (ctx.types.host argument.type) :=
    types ▸ TypeTable.isPlain_host argument.type
  have blank : Quiet .code " " .code := .fixed rfl
  have star : Quiet .code " *" .star := .fixed rfl
  unfold parameter
  by_cases character : argument.type.isCharacter = true
  · rw [if_pos character]
    exact .inl (((Quiet.name isType).append blank).append (.name isName))
  · rw [if_neg character]
    exact .pointer ((Quiet.name isType).append star) isName

include types plain in
/-- The prototype of a routine. -/
theorem quiet_routinePrototype {routine : Routine} (declared : routine ∈ ctx.inventory.routines) :
    (Item.prototype (ctx.routinePrototype routine)).IsQuiet := by
  refine Item.isQuiet_prototype ?_ ?_
  · have lead : Quiet .code "extern " .code := .fixed rfl
    have blank : Quiet .code " " .code := .fixed rfl
    refine (lead.append ((Quiet.name ?_).append blank)).append (.name (plain.routineSymbol declared))
    rw [types]
    cases routine.result with
    | none => decide
    | some type => exact TypeTable.isPlain_host type
  · have each : ∀ parameter ∈ ctx.parameters routine, Settles parameter.text := by
      intro parameter member
      rw [parameters, List.mem_append, List.mem_map] at member
      rcases member with ⟨argument, taken, rfl⟩ | atEnd
      · exact settles_parameter types (plain.argument routine declared argument taken).1
      · split at atEnd
        · obtain ⟨number, -, rfl⟩ := List.mem_map.mp atEnd
          exact .inl (.append (.fixed rfl) (.number number))
        · cases atEnd
    unfold routinePrototype
    dsimp only
    split
    · exact List.forall_mem_singleton.mpr (.inl (.fixed rfl))
    · exact List.forall_mem_map.mpr each

include plain in
theorem quiet_subroutinePrototype {role : String} (isRole : CSource.IsPlain role) :
    (Item.prototype (ctx.subroutinePrototype role)).IsQuiet := by
  refine Item.isQuiet_prototype ?_ (List.forall_mem_singleton.mpr (.inl (.fixed rfl)))
  have lead : Quiet .code ("extern " ++ "void ") .code := .append (.fixed rfl) (.fixed rfl)
  exact lead.append (.name (plain.linkSymbol isRole (by decide)))

include plain in
theorem quiet_constructorPrototype {record : RecordType} (listed : record ∈ ctx.inventory.records) :
    (Item.prototype (ctx.constructorPrototype record)).IsQuiet := by
  refine Item.isQuiet_prototype ?_ (List.forall_mem_singleton.mpr (.inl (.fixed rfl)))
  have lead : Quiet .code ("extern " ++ "PyObject *") .star := .append (.fixed rfl) (.fixed rfl)
  show Quiet .code ("extern " ++ "PyObject *" ++ (ctx.wrapperName record.name ++ "New")) .code
  rw [← String.append_assoc]
  exact (Settles.pointer lead (plain.wrapperName (plain.record record listed))).followed rfl rfl

include types plain in
/-- All prototypes, and the object of the module. -/
theorem quiet_prototypeItems : ∀ item ∈ ctx.prototypeItems, item.IsQuiet := by
  have object : (Item.definition ⟨"ForthonObject *", ctx.module ++ "Object", ";", []⟩).IsQuiet := by
    refine Item.isQuiet_definition ?_ nofun
    exact (Settles.pointer (.fixed rfl) (plain.module.append (by decide))).followed rfl rfl
  have data : ∀ item ∈ (if ctx.isFree then [] else
      [Item.prototype (ctx.subroutinePrototype "data")]), item.IsQuiet := by
    split
    · nofun
    · exact List.forall_mem_singleton.mpr (quiet_subroutinePrototype plain (by decide))
  simp only [prototypeItems, List.forall_mem_append, List.forall_mem_cons, List.forall_mem_map]
  refine ⟨⟨⟨⟨⟨?_, ?_, ?_, ?_, ?_, object, ?_, ?_, ?_, nofun⟩, data⟩, ?_⟩, ?_⟩, ?_, nofun⟩
  · exact Item.isQuiet_line (.around rfl plain.module rfl)
  · exact Item.isQuiet_line (.fixed rfl)
  · exact Item.isQuiet_line (.fixed rfl)
  · exact Item.isQuiet_line (.fixed rfl)
  · exact Item.isQuiet_line (.fixed rfl)
  · exact Item.isQuiet_line (.fixed rfl)
  · exact quiet_subroutinePrototype plain (by decide)
  · exact quiet_subroutinePrototype plain (by decide)
  · exact fun routine declared => quiet_routinePrototype types plain declared
  · exact fun record listed => quiet_constructorPrototype plain listed
  · exact Item.isQuiet_line (.fixed rfl)

end Context

/-! ### The descriptor tables -/

/-- The prototype of a subroutine of a variable, if the variable has one. -/
theorem quiet_binderPrototype {symbol : Option String} (plain : ∀ name ∈ symbol, IsPlain name)
    {parameters : List String} (each : ∀ parameter ∈ parameters, Settles parameter) :
    ∀ prototype ∈ (symbol.map fun name => Prototype.mk "void " name parameters).toList,
      (Item.prototype prototype).IsQuiet := by
  intro prototype member
  obtain ⟨name, here, rfl⟩ := Option.map_eq_some_iff.mp (Option.mem_toList.mp member)
  have lead : Quiet .code ("extern " ++ "void ") .code := .append (.fixed rfl) (.fixed rfl)
  exact Item.isQuiet_prototype (lead.append (.name (plain name here))) each

/-- A name in quotes, as it is. -/
theorem quiet_rawQuoted {name : String} (plain : IsPlain name) : Quiet .code (rawQuoted name) .code :=
  .aroundInLiteral rfl plain rfl

theorem quiet_cTruth (value : Bool) : Quiet .code (cTruth value) .code := by
  cases value
  · exact .fixed rfl
  · exact .fixed rfl

/-- A pointer to a function, or the null pointer. -/
theorem settles_functionPointer {function : Option String}
    (plain : ∀ name ∈ function, IsPlain name) : Settles (functionPointer function) := by
  cases function with
  | none => exact .inl (.fixed rfl)
  | some name => exact .pointer (.fixed rfl) (plain name rfl)

/-- A row whose cells may end in a star. -/
theorem quiet_tableRow {cells : List String} (each : ∀ cell ∈ cells, Settles cell) :
    Quiet .code (tableRow cells) .code := by
  have opens : Quiet .code "\x7b" .code := .fixed rfl
  have list : Quiet .code (join "," cells ++ "\x7d") .code :=
    (Settles.join each rfl rfl).followed rfl rfl
  rw [tableRow, String.append_assoc]
  exact opens.append list

/-- A table is quiet if its rows are. -/
theorem quiet_tableItems {storage type size table : String} {rows : List String}
    (isStorage : IsPlain storage) (isType : IsPlain type) (isSize : IsPlain size)
    (isTable : IsPlain table) (each : ∀ row ∈ rows, Quiet .code row .code) :
    ∀ item ∈ tableItems storage type size table rows, item.IsQuiet := by
  have typed : Quiet .code (storage ++ type) .code := .append (.name isStorage) (.name isType)
  have blank : Quiet .code " " .code := .fixed rfl
  have star : Quiet .code " *" .star := .fixed rfl
  refine List.forall_mem_cons.mpr ⟨?_, List.forall_mem_singleton.mpr ?_⟩
  · refine Item.isQuiet_definition ?_ nofun
    exact .append (.append (.fixed rfl) (.name isSize)) (.around rfl (.number _) rfl)
  · split
    · refine Item.isQuiet_definition ?_ nofun
      exact (Settles.pointer (typed.append star) isTable).followed rfl rfl
    · refine Item.isQuiet_definition ?_ fun line member => ?_
      · exact .append (.append (typed.append blank) (.name isTable)) (.around rfl (.number _) rfl)
      · rcases List.mem_cons.mp (mem_ofList.mp member) with rfl | member
        · exact .join each rfl
        · obtain rfl := List.mem_singleton.mp member
          exact .fixed rfl

namespace Context

variable {ctx : Context} (types : ctx.types = .standard) (plain : ctx.IsPlain)

include plain in
/-- The name of a setter or getter, if the variable has one. -/
theorem isPlain_binderSymbol {v : Variable}
    (listed : v ∈ ctx.inventory.scalars ++ ctx.inventory.arrays) {role : String}
    (isRole : CSource.IsPlain role) (condition : Bool) :
    ∀ symbol ∈ (if condition then some (ctx.linkSymbol role v.name) else none),
      CSource.IsPlain symbol := by
  intro symbol member
  by_cases holds : condition = true
  · rw [if_pos holds] at member
    obtain rfl := Option.some.inj member
    exact plain.linkSymbol isRole (plain.declared v listed).1
  · rw [if_neg holds] at member
    cases member

include plain in
theorem quiet_binderPrototypeItems : ∀ item ∈ ctx.binderPrototypeItems, item.IsQuiet := by
  have buffer : Settles "char *p" := .inl (.fixed rfl)
  have owner : Settles "long *cobj__" := .inl (.fixed rfl)
  simp only [binderPrototypeItems, List.forall_mem_map, List.forall_mem_append,
    List.forall_mem_flatMap, package]
  refine ⟨fun v listed => ?_, fun v listed => ?_⟩
  · have isDeclared := List.mem_append_left ctx.inventory.arrays listed
    refine List.forall_mem_append.mpr ⟨?_, ?_⟩
    · refine quiet_binderPrototype (isPlain_binderSymbol plain isDeclared (by decide) _) ?_
      simp only [List.forall_mem_cons]
      exact ⟨buffer, owner, nofun⟩
    · refine quiet_binderPrototype (isPlain_binderSymbol plain isDeclared (by decide) _) ?_
      simp only [List.forall_mem_cons]
      exact ⟨.inl (.fixed rfl), .inl (.fixed rfl), .inl (.fixed rfl), nofun⟩
  · have isDeclared := List.mem_append_right ctx.inventory.scalars listed
    refine List.forall_mem_append.mpr ⟨?_, ?_⟩
    · refine quiet_binderPrototype (isPlain_binderSymbol plain isDeclared (by decide) _) ?_
      simp only [List.forall_mem_cons]
      exact ⟨buffer, owner, .inl (.fixed rfl), nofun⟩
    · refine quiet_binderPrototype (isPlain_binderSymbol plain isDeclared (by decide) _) ?_
      simp only [List.forall_mem_cons]
      exact ⟨.inl (.fixed rfl), owner, nofun⟩

include types plain in
/-- A row of the scalar table holds names, numbers and quoted texts only. -/
theorem quiet_scalarRow {v : Variable} (listed : v ∈ ctx.inventory.scalars) :
    Quiet .code (ctx.scalarDescriptor v).row .code := by
  have isDeclared := List.mem_append_left ctx.inventory.arrays listed
  obtain ⟨name, group, tag⟩ := plain.declared v isDeclared
  have element : CSource.IsPlain (ctx.types.element v.type) :=
    types ▸ TypeTable.isPlain_element v.type
  refine quiet_tableRow ?_
  simp only [List.forall_mem_cons]
  refine ⟨.inl (.name element), .inl (quiet_rawQuoted tag), .inl (quiet_rawQuoted name),
    .inl (.fixed rfl), .inl (quiet_rawQuoted group), .inl (.quoted _), .inl (.quoted _),
    .inl (quiet_cTruth _), settles_functionPointer ?_, settles_functionPointer ?_, nofun⟩
  · exact isPlain_binderSymbol plain isDeclared (by decide) _
  · exact isPlain_binderSymbol plain isDeclared (by decide) _

include types plain in
/-- A row of the array table, which also quotes the shape. -/
theorem quiet_arrayRow {v : Variable} (listed : v ∈ ctx.inventory.arrays) :
    Quiet .code (ctx.arrayDescriptor v).row .code := by
  have isDeclared := List.mem_append_right ctx.inventory.scalars listed
  obtain ⟨name, group, -⟩ := plain.declared v isDeclared
  have element : CSource.IsPlain (ctx.types.element v.type) :=
    types ▸ TypeTable.isPlain_element v.type
  refine quiet_tableRow ?_
  simp only [List.forall_mem_cons]
  refine ⟨.inl (.name element), .inl (quiet_cTruth _), .inl (.number _), .inl (.fixed rfl),
    .inl (quiet_rawQuoted name), .inl (.fixed rfl), settles_functionPointer ?_,
    settles_functionPointer ?_, .inl (.code (plain.filled v listed)), .inl (.fixed rfl),
    .inl (quiet_rawQuoted group), .inl (.quoted _), .inl (.quoted _), .inl (.quoted _), nofun⟩
  · exact isPlain_binderSymbol plain isDeclared (by decide) _
  · exact isPlain_binderSymbol plain isDeclared (by decide) _

include plain in
theorem isPlain_tableName {index : ScalarIndex} (listed : index ∈ ctx.externals) :
    CSource.IsPlain index.tableName :=
  (IsPlain.word (all_isNameChar_of_isIdentifier (plain.tables.2 index listed))).append (by decide)

include types plain in
theorem quiet_scalarTableItems : ∀ item ∈ ctx.scalarTableItems, item.IsQuiet := by
  refine List.forall_mem_append.mpr ⟨?_, ?_⟩
  · refine List.forall_mem_map.mpr fun index listed => Item.isQuiet_line ?_
    exact .around rfl (isPlain_tableName plain listed) rfl
  · refine quiet_tableItems (by decide) (by decide) (plain.module.append (by decide))
      (plain.module.append (by decide)) ?_
    exact List.forall_mem_map.mpr (List.forall_mem_map.mpr fun v => quiet_scalarRow types plain)

include types plain in
theorem quiet_arrayTableItems : ∀ item ∈ ctx.arrayTableItems, item.IsQuiet := by
  refine quiet_tableItems (by decide) (by decide) (plain.module.append (by decide))
    (plain.module.append (by decide)) ?_
  exact List.forall_mem_map.mpr (List.forall_mem_map.mpr fun v => quiet_arrayRow types plain)

/-! ### The method table -/

include plain in
/-- The method table, with a row for each routine. -/
theorem quiet_methodTableItems : ∀ item ∈ ctx.methodTableItems, item.IsQuiet := by
  have routineRow (routine : Routine) (declared : routine ∈ ctx.inventory.routines) :
      Quiet .code (ctx.routineRow routine) .code := by
    have name := plain.routine routine declared
    have wrapper := plain.wrapperName name
    exact .append (.append (.append (.append (.aroundInLiteral rfl name rfl) (.name wrapper))
      (.fixed rfl)) (.name wrapper)) (.fixed rfl)
  have constructorRow (record : RecordType) (listed : record ∈ ctx.inventory.records) :
      Quiet .code (ctx.constructorRow record) .code := by
    have name := plain.record record listed
    have constructor := plain.wrapperName name
    exact .append (.append (.append (.aroundInLiteral rfl name rfl) (.name constructor)) (.fixed rfl))
      (.aroundInLiteral rfl name rfl)
  have closes : Quiet .code "\x7bNULL,NULL\x7d\x7d;" .code := .fixed rfl
  refine List.forall_mem_cons.mpr ⟨?_, List.forall_mem_singleton.mpr (Item.isQuiet_line (.fixed rfl))⟩
  refine Item.isQuiet_definition ?_ fun line member => ?_
  · exact .append (.append (.fixed rfl) (.name (plain.module.append (by decide)))) (.fixed rfl)
  · revert line
    simp only [mem_ofList, List.forall_mem_append, List.forall_mem_map, List.forall_mem_singleton]
    exact ⟨⟨routineRow, constructorRow⟩, closes⟩

/-! ### What the foreign side calls -/

include plain in
/-- The functions that set the addresses of scalars and arrays. -/
theorem quiet_binderItems : ∀ item ∈ ctx.binderItems, item.IsQuiet := by
  have binder {role : String} {cs : List Char} {body : List String} (isRole : CSource.IsPlain role)
      (run : Reader.run? .code cs = some .code) (each : ∀ line ∈ body, Quiet .code line .code) :
      (ctx.binderItem role (String.ofList cs) body).IsQuiet := by
    refine Item.isQuiet_definition ?_ (quiet_braced fun line member => each line (mem_ofList.mp member))
    exact .append (.append (.fixed rfl) (.name (plain.linkSymbol isRole (by decide)))) (.fixed run)
  have scalarTable : CSource.IsPlain ctx.scalarTable := plain.module.append (by decide)
  have arrayTable : CSource.IsPlain ctx.arrayTable := plain.module.append (by decide)
  unfold binderItems
  simp only [List.forall_mem_cons]
  refine ⟨binder (by decide) rfl ?_, binder (by decide) rfl ?_, binder (by decide) rfl ?_,
    binder (by decide) rfl ?_, binder (by decide) rfl ?_, Item.isQuiet_line (.fixed rfl), nofun⟩
  · exact List.forall_mem_singleton.mpr (.around rfl scalarTable rfl)
  · exact List.forall_mem_singleton.mpr (.around rfl scalarTable rfl)
  · exact List.forall_mem_singleton.mpr (.around rfl arrayTable rfl)
  · exact List.forall_mem_singleton.mpr (.fixed rfl)
  · split
    · simp only [List.forall_mem_cons]
      exact ⟨.fixed rfl, .fixed rfl, .fixed rfl, nofun⟩
    · nofun

/-! ### Loading -/

include plain in
theorem quiet_moduleDefinition : (Item.definition ctx.moduleDefinition).IsQuiet := by
  refine Item.isQuiet_definition ?_ fun line member => ?_
  · exact .append (.append (.fixed rfl) (.name (plain.module.append (by decide)))) (.fixed rfl)
  · revert line
    simp only [moduleDefinition, mem_ofList, List.forall_mem_cons]
    exact ⟨.fixed rfl, .aroundInLiteral rfl plain.module rfl, .fixed rfl, .fixed rfl,
      .around rfl plain.module rfl, .fixed rfl, nofun⟩

include plain in
theorem quiet_packageFields : ∀ field ∈ ctx.packageFields,
    CSource.IsPlain field.1 ∧ Quiet .code field.2 .code := by
  have named : Quiet .code ("\"" ++ ctx.module ++ "\"") .code := .aroundInLiteral rfl plain.module rfl
  have own {suffix : String} (isPlain : CSource.IsPlain suffix) :
      Quiet .code (ctx.module ++ suffix) .code := .name (plain.module.append isPlain)
  have function {cs : List Char} (code : Reader.run? .code cs = some .code)
      (star : Reader.run? .star cs = some .code) :
      Quiet .code ("*" ++ ctx.module ++ String.ofList cs) .code :=
    (Settles.pointer (.fixed rfl) plain.module).followed code star
  simp only [packageFields, List.forall_mem_cons]
  exact ⟨⟨by decide, named⟩, ⟨by decide, named⟩, ⟨by decide, own (by decide)⟩,
    ⟨by decide, own (by decide)⟩, ⟨by decide, own (by decide)⟩, ⟨by decide, own (by decide)⟩,
    ⟨by decide, function rfl rfl⟩, ⟨by decide, function rfl rfl⟩, ⟨by decide, own (by decide)⟩,
    ⟨by decide, .aroundInLiteral rfl plain.module rfl⟩, ⟨by decide, .fixed rfl⟩,
    ⟨by decide, .fixed rfl⟩, ⟨by decide, .fixed rfl⟩, ⟨by decide, .fixed rfl⟩,
    ⟨by decide, .fixed rfl⟩, nofun⟩

include plain in
/-- The lines that fill in the package. -/
theorem quiet_packageLines : ∀ line ∈ ctx.packageLines, Quiet .code line .code := by
  have object : CSource.IsPlain (ctx.module ++ "Object") := plain.module.append (by decide)
  have inLiteral := plain.module
  simp only [packageLines, List.forall_mem_append, List.forall_mem_map, List.forall_mem_cons]
  refine ⟨⟨⟨.around rfl object rfl, nofun⟩, fun field member => ?_⟩, ?_, .aroundInLiteral rfl inLiteral rfl,
    .aroundInLiteral rfl inLiteral rfl, .aroundInLiteral rfl plain.toolchain rfl, .fixed rfl,
    .fixed rfl, .aroundInLiteral rfl inLiteral rfl, .fixed rfl, nofun⟩
  · obtain ⟨isField, value⟩ := quiet_packageFields plain field member
    exact .append (.append (.append (.append (.around rfl object rfl) (.name isField)) (.fixed rfl))
      value) (.fixed rfl)
  · exact .append (.append (.aroundInLiteral rfl inLiteral rfl) (.name object)) (.fixed rfl)

include plain in
/-- The calls that bind all variables when the module is loaded. -/
theorem quiet_bindingSteps : ∀ step ∈ ctx.bindingSteps, Quiet .code step.text .code := by
  have object : CSource.IsPlain (ctx.module ++ "Object") := plain.module.append (by decide)
  have call {role : String} (isRole : CSource.IsPlain role) :
      Quiet .code (StartStep.call (ctx.linkSymbol role "")).text .code :=
    .around rfl (plain.linkSymbol isRole (by decide)) rfl
  simp only [bindingSteps, List.forall_mem_append, List.forall_mem_cons]
  refine ⟨⟨⟨.fixed rfl, .around rfl object rfl, .around rfl object rfl, call (by decide),
    call (by decide), .around rfl object rfl, nofun⟩, ?_⟩, ?_⟩
  · split
    · nofun
    · exact List.forall_mem_singleton.mpr (call (by decide))
  · split
    · simp only [List.forall_mem_cons]
      exact ⟨.fixed rfl, .fixed rfl, .fixed rfl, .around rfl object rfl, .fixed rfl, .fixed rfl,
        nofun⟩
    · nofun

include plain in
theorem quiet_registrationLines : ∀ line ∈ ctx.registrationLines, Quiet .code line .code := by
  simp only [registrationLines, List.forall_mem_cons]
  refine ⟨.fixed rfl, .fixed rfl, .fixed rfl, .fixed rfl, .fixed rfl, .fixed rfl, .fixed rfl, .fixed rfl,
    .fixed rfl, ?_, .fixed rfl, .fixed rfl, .fixed rfl, .aroundInLiteral rfl plain.module rfl, .fixed rfl,
    .fixed rfl, .fixed rfl, .fixed rfl, nofun⟩
  exact .append (.append (.around rfl plain.module rfl) (.nameInLiteral plain.module)) (.fixed rfl)

include plain in
/-- All that runs when the module is loaded. -/
theorem quiet_moduleInitItems : ∀ item ∈ ctx.moduleInitItems, item.IsQuiet := by
  have creation : ∀ line ∈ ctx.creationLines, Quiet .code line .code := by
    simp only [creationLines, List.forall_mem_append, List.forall_mem_cons]
    refine ⟨⟨⟨.fixed rfl, nofun⟩, ?_⟩, .fixed rfl, .fixed rfl, .around rfl plain.module rfl, .fixed rfl,
      .fixed rfl, nofun⟩
    split
    · exact List.forall_mem_singleton.mpr (.fixed rfl)
    · nofun
  simp only [moduleInitItems, List.forall_mem_cons]
  refine ⟨quiet_moduleDefinition plain, Item.isQuiet_line (.fixed rfl), ?_, nofun⟩
  refine Item.isQuiet_definition ?_ (quiet_braced fun line member => ?_)
  · exact .append (.append (.fixed rfl) (.around rfl plain.module rfl)) (.fixed rfl)
  · revert line
    simp only [mem_ofList, List.forall_mem_append, List.forall_mem_map, List.forall_mem_singleton]
    exact ⟨⟨⟨⟨creation, quiet_packageLines plain⟩, quiet_bindingSteps plain⟩,
      quiet_registrationLines plain⟩, .fixed rfl⟩

end Context

/-! ### Wrappers -/

/-- A refusal, the message of which is quoted. -/
theorem quiet_refuse {indent : String} (plain : IsPlain indent) (error : CallError) :
    ∀ line ∈ refuse indent error, Quiet .code line .code := by
  simp only [refuse, List.forall_mem_cons]
  refine ⟨?_, .append (.name plain) (.fixed rfl), nofun⟩
  exact .append (.append (.append (.name plain) (.fixed rfl)) (.quoted _)) (.fixed rfl)

theorem quiet_bufferText (index : Nat) {element : String} (plain : IsPlain element)
    (convention : Convention) : Quiet .code (bufferText index element convention) .code := by
  cases convention with
  | foreign => exact .append (.append (.around rfl (.number index) rfl) (.name plain)) (.fixed rfl)
  | plain => exact .append (.append (.around rfl (.number index) rfl) (.name plain)) (.fixed rfl)

/-- The lines that convert an argument. -/
theorem Conversion.quiet_lines {conversion : Conversion}
    (plain : match conversion with
      | .record _ typeName _ => IsPlain typeName
      | .buffer _ element _ _ _ _ => IsPlain element) :
    ∀ line ∈ conversion.lines, Quiet .code line .code := by
  cases conversion with
  | record index typeName mismatch =>
      simp only [lines, List.forall_mem_append, List.forall_mem_cons]
      refine ⟨⟨⟨.fixed rfl, .fixed rfl, .around rfl (.number index) rfl, .fixed rfl, .fixed rfl, ?_,
        nofun⟩, quiet_refuse (by decide) mismatch⟩, .fixed rfl, nofun⟩
      exact .append (.around rfl (.number index) rfl) (.aroundInLiteral rfl plain rfl)
  | buffer index element convention mismatch failure descriptor =>
      have number := IsPlain.number index
      simp only [lines, List.forall_mem_append, List.forall_mem_cons]
      refine ⟨⟨⟨⟨⟨.fixed rfl, ?_, nofun⟩, quiet_refuse (by decide) mismatch⟩, ?_,
        .around rfl number rfl, nofun⟩, quiet_refuse (by decide) failure⟩, ?_⟩
      · exact .append (.append (.around rfl number rfl) (.name plain)) (.fixed rfl)
      · exact .append (.append (.around rfl number rfl) (quiet_bufferText index plain convention))
          (.fixed rfl)
      · cases descriptor with
        | none => nofun
        | some count =>
            refine List.forall_mem_singleton.mpr ?_
            exact .append (.append (.append (.append (.around rfl (.number count) rfl) (.name number))
              (.fixed rfl)) (.name number)) (.fixed rfl)

/-- The cast of a sizing argument is no access to a table. -/
theorem SizingRead.quiet_line {read : SizingRead} (cast : read.type ∈ castTypes)
    (plain : IsPlain read.name) : Quiet .code read.line .code := by
  have type : IsPlain read.type := .word (all_isNameChar_type cast)
  have lead : Quiet .code ("  " ++ read.type ++ " " ++ read.name ++ " = *(") .opening :=
    .append (.append (.around rfl type rfl) (.name plain)) (.fixed rfl)
  have reads : Quiet .opening (read.type ++ " *)(PyArray_BYTES(ax[") .code := .cast cast rfl
  have whole : Quiet .code ("  " ++ read.type ++ " " ++ read.name ++ " = *(" ++
      (read.type ++ " *)(PyArray_BYTES(ax[") ++ toString read.position ++ "]));") .code :=
    .append (.append (lead.append reads) (.number _)) (.fixed rfl)
  rw [← String.append_assoc] at whole
  exact whole

theorem ShapeCheck.quiet_rankLines (check : ShapeCheck) (routine : Routine) :
    ∀ line ∈ check.rankLines routine, Quiet .code line .code := by
  have dimensions : Quiet .code s!"PyArray_NDIM(ax[{check.index}])" .code :=
    .around rfl (.number _) rfl
  simp only [rankLines, List.forall_mem_append, List.forall_mem_cons]
  refine ⟨⟨.around rfl (.number _) rfl, ?_, nofun⟩, quiet_refuse (by decide) _⟩
  split
  · exact .append (.append (.append (.append (.fixed rfl) dimensions) (.fixed rfl)) dimensions)
      (.fixed rfl)
  · exact .append (.append (.append (.append (.fixed rfl) dimensions) (.fixed rfl)) (.number _))
      (.fixed rfl)

/-- The comparison of an extent, after it has been computed. -/
theorem ShapeCheck.quiet_comparison (check : ShapeCheck) (routine : Routine) (scope : Scope)
    (known : KnownExtent) :
    ∀ line ∈ (check.extentLines routine scope known).tail, Quiet .code line .code := by
  have actual : Quiet .code s!"(int)(PyArray_DIMS(ax[{check.index}])[{known.dimension}])" .code :=
    .append (.append (.around rfl (.number _) rfl) (.number _)) (.fixed rfl)
  simp only [extentLines, List.cons_append, List.nil_append, List.tail_cons, List.forall_mem_cons]
  refine ⟨?_, quiet_refuse (by decide) _⟩
  split
  · exact .append (.append (.around rfl (.number _) rfl) actual) (.fixed rfl)
  · exact .append (.append (.fixed rfl) actual) (.fixed rfl)

namespace Context

variable {ctx : Context} (types : ctx.types = .standard) (plain : ctx.IsPlain)

include types in
/-- The declarations of a wrapper. -/
theorem quiet_openingLines (routine : Routine) :
    ∀ line ∈ ctx.openingLines routine, Quiet .code line .code := by
  have letters (count : Nat) : CSource.IsPlain (String.ofList (List.replicate count 'O')) := by
    intro c member
    rw [String.toList_ofList] at member
    rw [List.eq_of_mem_replicate member]
    decide
  have objects (count : Nat) : Quiet .code
      (String.join ((List.range count).map fun index => s!",&pyobj[{index}]")) .code := by
    have each : ∀ index ∈ List.range count,
        Scans .code s!",&pyobj[{index}]" (fun _ => False) .code := fun index _ =>
      (Quiet.around rfl (.number index) rfl).scans fun _ => id
    exact (Scans.join each).isQuiet fun access => by simp
  simp only [openingLines, List.forall_mem_append, List.forall_mem_cons]
  refine ⟨⟨⟨⟨⟨⟨⟨forall_mem_linesIf ?_, .fixed rfl, .fixed rfl, List.forall_mem_nil _⟩,
    forall_mem_linesIf ?_⟩, forall_mem_linesIf ?_⟩, ?_⟩, forall_mem_linesIf ?_⟩, forall_mem_linesIf ?_⟩,
    ?_, List.forall_mem_nil _⟩
  · simp only [List.forall_mem_cons]
    exact ⟨.around rfl (.number _) rfl, .around rfl (.number _) rfl, .fixed rfl, List.forall_mem_nil _⟩
  · exact List.forall_mem_singleton.mpr (.fixed rfl)
  · exact List.forall_mem_singleton.mpr (.around rfl (.number _) rfl)
  · cases routine.result with
    | none => exact List.forall_mem_nil _
    | some type =>
        simp only [List.forall_mem_cons]
        exact ⟨.fixed rfl, .around rfl (types ▸ TypeTable.isPlain_host type) rfl, List.forall_mem_nil _⟩
  · exact List.forall_mem_singleton.mpr (.fixed rfl)
  · exact List.forall_mem_singleton.mpr (.around rfl (.number _) rfl)
  · exact .append (.append (.aroundInLiteral rfl (letters _) rfl) (objects _)) (.fixed rfl)

theorem quiet_recoveryLines (routine : Routine) :
    ∀ line ∈ recoveryLines routine, Quiet .code line .code := by
  simp only [recoveryLines, List.forall_mem_cons]
  exact ⟨.fixed rfl, .append (.append (.fixed rfl) (.escaped _)) (.fixed rfl), .fixed rfl, nofun⟩

theorem quiet_exitLines (routine : Routine) :
    ∀ line ∈ exitLines routine, Quiet .code line .code := by
  simp only [exitLines, List.forall_mem_append, List.forall_mem_cons]
  refine ⟨⟨⟨.fixed rfl, .fixed rfl, .fixed rfl, nofun⟩, forall_mem_linesIf ?_⟩, .fixed rfl, nofun⟩
  simp only [List.forall_mem_cons]
  exact ⟨.around rfl (.number _) rfl, .fixed rfl, nofun⟩

include types plain in
/-- The conversions of all arguments. -/
theorem quiet_conversions {routine : Routine} (declared : routine ∈ ctx.inventory.routines) :
    ∀ line ∈ (ctx.conversions routine).flatMap Conversion.lines, Quiet .code line .code := by
  refine List.forall_mem_flatMap.mpr fun conversion member => Conversion.quiet_lines ?_
  obtain ⟨index, inside, rfl⟩ := List.mem_mapIdx.mp member
  obtain ⟨-, tag⟩ := plain.argument routine declared _ (List.getElem_mem inside)
  have element (type : ValueType) : CSource.IsPlain (ctx.types.element type) :=
    types ▸ TypeTable.isPlain_element type
  generalize routine.arguments[index] = argument at tag ⊢
  cases isType : argument.type with
  | record name =>
      rw [isType] at tag
      exact tag
  | _ => exact element _

include types in
theorem quiet_callArguments (routine : Routine) :
    ∀ argument ∈ ctx.callArguments routine, Quiet .code argument.text .code := by
  have isType (type : ValueType) : CSource.IsPlain (ctx.types.host type) :=
    types ▸ TypeTable.isPlain_host type
  refine List.forall_mem_append.mpr ⟨fun argument member => ?_, fun argument member => ?_⟩
  · obtain ⟨index, inside, rfl⟩ := List.mem_mapIdx.mp member
    split
    · exact .around rfl (.number _) rfl
    · split
      · exact .around rfl (.number _) rfl
      · exact .append (.append (.around rfl (isType _) rfl) (.number _)) (.fixed rfl)
  · split at member
    · obtain ⟨⟨index, -⟩, -, rfl⟩ := List.mem_map.mp member
      exact .around rfl (.number _) rfl
    · cases member

include types plain in
/-- The line of the call. -/
theorem quiet_callLine {routine : Routine} (declared : routine ∈ ctx.inventory.routines) :
    Quiet .code (ctx.callLine routine) .code := by
  have passed : Quiet .code (join "," ((ctx.callArguments routine).map CallArgument.text)) .code :=
    .join (List.forall_mem_map.mpr (quiet_callArguments types routine)) rfl
  have start : Quiet .code (if routine.result.isSome then "  r = " else "  ") .code := by
    split
    · exact .fixed rfl
    · exact .fixed rfl
  exact .append (.append (.append (.append start (.name (plain.routineSymbol declared))) (.fixed rfl))
    passed) (.fixed rfl)

end Context

end ForeignGlue
