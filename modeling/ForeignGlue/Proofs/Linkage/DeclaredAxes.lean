/-
**The axes of declared arrays.**

A group module declares an array with its axes behind its name. A dynamic array has as many as its bounds
say, less the one that a character array spends on the length of its strings. A static array has its
shape text, which has all of them.

* `HasAxes.eq_axesIn`: a text has one number of axes;
* `hasAxes_shapeText`, `hasAxes_pointerAxes`: those of a shape, and of a pointer;
* `Context.declaredAxes_iff`: how many axes every array is declared with, and so which are declared alike
  whether they are static or not. A static character array is not
  (`Context.static_label_keeps_length`).
-/

import ForeignGlue.Proofs.Interface.ShapeEntries
import ForeignGlue.Proofs.Linkage.GroupPartition

namespace ForeignGlue

open ForeignGlue.Source
open ForeignGlue.Text

/-! ### Counting axes -/

/-- **A text with a number of axes**: no text for none, and else their extents in parentheses, with commas
between them. -/
inductive HasAxes : String → Nat → Prop
  | none : HasAxes "" 0
  | listed {extents : List String} (filled : extents ≠ [])
      (each : ∀ extent ∈ extents, IsEntry extent.toList) :
      HasAxes ("(" ++ ",".intercalate extents ++ ")") extents.length

/-- The number of axes that a text is cut into. -/
def axesIn (text : String) : Nat :=
  if text.toList = [] then 0 else (splitOutside 0 (stripParentheses (trimChars text.toList))).length

/-- **The number of axes** is found by cutting their text. -/
theorem HasAxes.eq_axesIn {text : String} {count : Nat} (axes : HasAxes text count) :
    count = axesIn text := by
  cases axes with
  | none => rfl
  | @listed extents filled each =>
      have chars : ("(" ++ ",".intercalate extents ++ ")").toList =
          '(' :: ([','].intercalate (extents.map String.toList) ++ [')']) := by
        rw [String.toList_append, String.toList_append, String.toList_intercalate]
        rfl
      have parted : Parted 0 (extents.map String.toList) := by
        refine .of_isEntry (by simpa using filled) fun entry member => ?_
        obtain ⟨extent, listed, rfl⟩ := List.mem_map.mp member
        exact each extent listed
      rw [axesIn, chars, if_neg (List.cons_ne_nil _ _), stripParentheses_enclosed,
        splitOutside_intercalate parted, List.length_map]

/-- **A shape has an axis for each bound.** -/
theorem hasAxes_shapeText {bounds : List Bound} (filled : bounds ≠ [])
    (each : ∀ bound ∈ bounds, IsEntry bound.low.toList ∧ IsEntry bound.high.toList) :
    HasAxes (shapeText bounds) bounds.length := by
  rw [shapeText, if_neg (by simpa using filled), ← List.length_map (f := Bound.text)]
  refine .listed (by simpa using filled) fun extent member => ?_
  obtain ⟨bound, listed, rfl⟩ := List.mem_map.mp member
  exact Bound.isEntry_text (each bound listed).1 (each bound listed).2

/-- The number of axes of an array, whose first dimension is the length of its strings if it has any. -/
def Variable.axisCount (v : Variable) : Nat :=
  if v.type.isCharacter then v.rank - 1 else v.rank

/-- **A pointer has an axis for each bound**, but for the length of its strings. -/
theorem hasAxes_pointerAxes (v : Variable) : HasAxes (Context.pointerAxes v).text v.axisCount := by
  unfold Context.pointerAxes
  show HasAxes (if v.axisCount = 0 then Axes.none else .deferred v.axisCount).text v.axisCount
  by_cases zero : v.axisCount = 0
  · rw [if_pos zero, zero]
    exact .none
  · rw [if_neg zero, Axes.text]
    have axes : HasAxes ("(" ++ ",".intercalate (List.replicate v.axisCount ":") ++ ")")
        (List.replicate v.axisCount ":").length := by
      refine .listed (by simpa using zero) fun extent member => ?_
      rw [List.eq_of_mem_replicate member]
      exact .plain (by decide) (by decide) (by decide) .nil
    rwa [List.length_replicate] at axes

/-! ### Declarations -/

namespace Context

variable {ctx : Context}

/-- The declaration of an array. -/
def arrayDeclaration (ctx : Context) (v : Variable) : VariableDeclaration where
  type := ctx.arrayType v
  pointer := if v.isDynamic then ",pointer" else ""
  save := ctx.options.toolchain.saveAttribute
  name := v.name
  axes := if v.isDynamic then pointerAxes v else .declared v.shape

theorem exists_declare_array (ctx : Context) {v : Variable} (isArray : v.isScalar = false) :
    ∃ rest, ctx.declare v = .declare (ctx.arrayDeclaration v) :: rest := by
  unfold declare declareArray arrayDeclaration
  rw [isArray]
  cases v.isDynamic with
  | true => exact ⟨_, rfl⟩
  | false => exact ⟨_, rfl⟩

theorem hasAxes_arrayDeclaration (ctx : Context) {v : Variable} (isArray : v.isScalar = false)
    (derived : v.shape = shapeText v.bounds)
    (each : ∀ bound ∈ v.bounds, IsEntry bound.low.toList ∧ IsEntry bound.high.toList) :
    HasAxes (ctx.arrayDeclaration v).axes.text (if v.isDynamic then v.axisCount else v.rank) := by
  unfold arrayDeclaration
  cases v.isDynamic with
  | true => exact hasAxes_pointerAxes v
  | false =>
      show HasAxes v.shape v.rank
      rw [derived]
      exact hasAxes_shapeText (by simpa [Variable.isScalar] using isArray) each

/-- Only character arrays have fewer axes than bounds. -/
theorem axisCount_eq_rank_iff {v : Variable} (isArray : v.isScalar = false) :
    v.axisCount = v.rank ↔ v.type.isCharacter = false := by
  have filled : 0 < v.rank := by
    refine List.length_pos_iff.mpr fun empty => ?_
    rw [Variable.isScalar, empty] at isArray
    cases isArray
  unfold Variable.axisCount
  cases v.type.isCharacter with
  | true => exact iff_of_false (Nat.ne_of_lt (Nat.sub_lt filled Nat.one_pos)) (by decide)
  | false => exact iff_of_true rfl rfl

/-- **The axes of declared arrays.** In free form, every array of an interface, seen by the host or not, is
declared in the module of its group, with its axes behind its name. If its shape is that of its bounds, in
which parentheses pair up and no comma stands outside of them, then a dynamic array has one axis for each
bound, less one for the length if it is of character type, and a static array has one axis for each bound.
So the length has no axis exactly if the array is dynamic or not of character type: a static character
array has one for the length of its strings, too. -/
theorem declaredAxes_iff (interface : Interface) (options : Options) (types : TypeTable)
    (externals : List ScalarIndex) (free : options.dialect = .free) {v : Variable}
    (declared : v ∈ interface.visibleVariables ∨ v ∈ interface.hidden) (isArray : v.isScalar = false)
    (derived : v.shape = shapeText v.bounds)
    (each : ∀ bound ∈ v.bounds, IsEntry bound.low.toList ∧ IsEntry bound.high.toList) :
    let ctx : Context := { inventory := .ofInterface interface, options, types, externals }
    ∃ module ∈ ctx.groupModules, module.name = v.group ∧
      v.annotate ∈ ctx.declarationOrder v.group ∧
      module.declarations = (ctx.declarationOrder v.group).flatMap ctx.declare ∧
      ∃ declaration rest, ctx.declare v.annotate = .declare declaration :: rest ∧
        declaration.text = ctx.arrayType v ++ (if v.dynamic then ",pointer" else "") ++
          options.toolchain.saveAttribute ++ "::" ++ v.name ++ declaration.axes.text ∧
        (∀ count, HasAxes declaration.axes.text count ↔
          count = if v.dynamic then v.axisCount else v.rank) ∧
        (HasAxes declaration.axes.text v.axisCount ↔
          v.dynamic = true ∨ v.type.isCharacter = false) := by
  intro ctx
  have listed : v.annotate ∈ ctx.inventory.allVariables :=
    Inventory.mem_allVariables.mpr ⟨v, declared, rfl⟩
  have known := Inventory.group_mem_groupNames listed
  have grouped : v.annotate ∈ ctx.inventory.variablesIn v.group :=
    List.mem_filter.mpr ⟨listed, beq_self_eq_true _⟩
  refine ⟨ctx.groupModule v.group, ?_, rfl, ?_, declarations_groupModule v.group, ?_⟩
  · unfold groupModules
    rw [show ctx.options.dialect = .free from free]
    exact List.mem_map_of_mem known
  · exact List.mem_append_right _ (List.mem_filter.mpr ⟨grouped, congrArg (!·) isArray⟩)
  · have isArrayToo : v.annotate.isScalar = false := isArray
    obtain ⟨rest, first⟩ := ctx.exists_declare_array isArrayToo
    have axes := ctx.hasAxes_arrayDeclaration isArrayToo derived each
    have spelled : (ctx.arrayDeclaration v.annotate).text = ctx.arrayType v ++
        (if v.annotate.isDynamic then ",pointer" else "") ++ options.toolchain.saveAttribute ++ "::" ++
          v.name ++ (ctx.arrayDeclaration v.annotate).axes.text := String.append_empty
    rw [v.isDynamic_annotate] at axes spelled
    have counted : ∀ count, HasAxes (ctx.arrayDeclaration v.annotate).axes.text count ↔
        count = if v.dynamic then v.axisCount else v.rank := by
      intro count
      constructor
      · intro others
        exact others.eq_axesIn.trans axes.eq_axesIn.symm
      · rintro rfl
        exact axes
    refine ⟨ctx.arrayDeclaration v.annotate, rest, first, spelled, counted, ?_⟩
    rw [counted, ← axisCount_eq_rank_iff isArray]
    cases v.dynamic with
    | true => exact iff_of_true rfl (Or.inl rfl)
    | false => simp

/-- Three strings of eight characters. -/
def label (isDynamic : Bool) : Variable :=
  { Variable.array "label" .character "g" [⟨"1", "8"⟩, ⟨"1", "3"⟩] with dynamic := isDynamic }

/-- A module that has nothing else. -/
def labelInterface (isDynamic : Bool) : Interface where
  module := "wxy"
  declarations := [.variable (label isDynamic)]

/-- The strings have two axes if they are static, and one if they are dynamic. -/
theorem declaredAxes_iff_label :
    let ctx (isDynamic : Bool) : Context := { inventory := .ofInterface (labelInterface isDynamic) }
    (∃ declaration rest, (ctx false).declare (label false).annotate = .declare declaration :: rest ∧
      HasAxes declaration.axes.text 2 ∧ ¬HasAxes declaration.axes.text (label false).axisCount) ∧
    ∃ declaration rest, (ctx true).declare (label true).annotate = .declare declaration :: rest ∧
      HasAxes declaration.axes.text (label true).axisCount := by
  intro ctx
  have plain {text : String} (checked : (text.toList.all fun c =>
      decide (c ≠ '(' ∧ c ≠ ')' ∧ c ≠ ',')) = true) : IsEntry text.toList :=
    .of_plain (forall_mem_of_all checked)
  have each (isDynamic : Bool) : ∀ bound ∈ (label isDynamic).bounds,
      IsEntry bound.low.toList ∧ IsEntry bound.high.toList := by
    intro bound listed
    rcases List.mem_cons.mp listed with rfl | listed
    · exact ⟨plain (by decide), plain (by decide)⟩
    · rw [List.mem_singleton.mp listed]
      exact ⟨plain (by decide), plain (by decide)⟩
  have axes (isDynamic : Bool) := declaredAxes_iff (labelInterface isDynamic) {} .standard [] rfl
    (Or.inl List.mem_cons_self) rfl rfl (each isDynamic)
  obtain ⟨-, -, -, -, -, static, rest, first, -, counted, spent⟩ := axes false
  obtain ⟨-, -, -, -, -, moving, more, firstToo, -, -, spentToo⟩ := axes true
  refine ⟨⟨static, rest, first, (counted 2).mpr rfl, fun fewer => ?_⟩, moving, more, firstToo, ?_⟩
  · rcases spent.mp fewer with isDynamic | other
    · cases isDynamic
    · cases other
  · exact spentToo.mpr (Or.inl rfl)

/-- **A static character array keeps an axis for its length.** The strings are declared with a length of
eight, and with an axis of eight as well; as a pointer they have one axis only. -/
theorem static_label_keeps_length :
    let ctx (isDynamic : Bool) : Context := { inventory := .ofInterface (labelInterface isDynamic) }
    (ctx false).modulesDraft.finish.toOption =
      some "MODULE g\n  SAVE\n  character(len=8)::label(8,3)\nEND MODULE g\n" ∧
    (ctx true).modulesDraft.finish.toOption =
      some "MODULE g\n  SAVE\n  character(len=8),pointer::label(:)\nEND MODULE g\n" ∧
    HasAxes "(:)" (label true).axisCount ∧ ¬HasAxes "(8,3)" (label false).axisCount := by
  refine ⟨by decide +kernel, by decide +kernel, hasAxes_pointerAxes (label true), fun axes => ?_⟩
  exact absurd axes.eq_axesIn (by decide)

end Context

end ForeignGlue
