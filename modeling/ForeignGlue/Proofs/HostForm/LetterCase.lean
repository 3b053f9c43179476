/-
**Bounds in any case.**

Names are looked up in lower case, and all other text of a bound is written in lower case. So two texts
that differ in the case of ASCII letters only are turned into the same code, or fail at the same name.

* `Binding.ignoresCase_none`, `Routine.ignoresCase_binding`: the local variables of a wrapper do not
  tell the cases apart;
* `Scope.alike_resolve`, `Scope.alike_pieces`: one name, then one expression;
* `foreignForm_lower`: the foreign form of a shape;
* `Scope.alike_of_sameName`: everything that a bound or a shape is turned into.
-/

import ForeignGlue.Host.Wrapper
import ForeignGlue.Proofs.Expression.LetterCase
import ForeignGlue.Proofs.Generation.Demand
import ForeignGlue.Proofs.Interface.ShapeEntries

namespace ForeignGlue

open ForeignGlue.Text

/-! ### What does not tell the cases apart -/

/-- Two errors at one name, in whatever case. -/
def SameMissing (first second : GenerationError) : Prop :=
  ∃ name twin, first = .unresolved name ∧ second = .unresolved twin ∧ sameName name twin = true

/-- Names that differ in case are bound to the same local variable, or neither is bound. -/
def Binding.IgnoresCase (binding : Binding) : Prop :=
  ∀ name twin, sameName name twin = true → binding name = binding twin

theorem Binding.ignoresCase_none : Binding.none.IgnoresCase :=
  fun _ _ _ => rfl

/-- Arguments are bound whatever the case of their names. -/
theorem Routine.ignoresCase_binding (routine : Routine) : routine.binding.IgnoresCase := by
  intro name twin same
  unfold binding sizingLocal sameName
  rw [sameName_iff.mp same]

/-- The same bounds, in whatever case. -/
structure Bound.SameText (bound twin : Bound) : Prop where
  low : sameName bound.low twin.low = true
  high : sameName bound.high twin.high = true

/-! ### Bounds -/

namespace Scope

variable (scope : Scope) {binding : Binding}

/-- Names resolve alike in any case. -/
theorem alike_resolve {name twin : String} (same : sameName name twin) :
    Alike Eq SameMissing (scope.resolve name) (scope.resolve twin) := by
  have lowered := sameName_iff.mp same
  have listed (index : ScalarIndex) : index.slot? name = index.slot? twin := by
    rw [ScalarIndex.slot?, ScalarIndex.slot?, lowered]
  rw [resolve, resolve, lowered]
  simp only [listed]
  split
  · exact .ok rfl
  · split
    · exact .ok rfl
    · exact .error ⟨name, twin, rfl, rfl, same⟩

theorem numberText_eq (digits : List Char) : numberText digits =
    String.ofList ((digits.map Char.toLower).map fun c => if c == 'd' then 'e' else c) := by
  rw [numberText, List.map_map]
  rfl

/-- Tokens are rendered alike in any case. -/
theorem alike_piece (ignores : binding.IgnoresCase) {token twin : Expression.Token}
    (same : token.lowered = twin.lowered) :
    Alike Eq SameMissing (scope.piece binding token) (scope.piece binding twin) := by
  obtain ⟨kind, chars⟩ := token
  obtain ⟨twinKind, twinChars⟩ := twin
  obtain ⟨rfl, lowered⟩ := Expression.Token.mk.inj same
  have texts := Expression.Token.sameName_text same
  cases kind with
  | name =>
      rw [piece, piece]
      dsimp only
      rw [ignores _ _ texts]
      cases binding (Expression.Token.text ⟨.name, twinChars⟩) with
      | some label => exact .ok rfl
      | none => exact (scope.alike_resolve texts).map fun _ _ slots => congrArg Piece.slot slots
  | number =>
      rw [piece, piece]
      dsimp only
      rw [numberText_eq, numberText_eq, lowered]
      exact .ok rfl
  | other =>
      rw [piece, piece]
      dsimp only
      rw [sameName_iff.mp texts]
      exact .ok rfl

/-- Lists whose items become the same one by one become the same. -/
theorem alike_collect {α β : Type} {related : α → α → Prop} {items twins : List α}
    {step : α → Except GenerationError β} (same : List.Forall₂ related items twins)
    (each : ∀ item twin, related item twin → Alike Eq SameMissing (step item) (step twin)) :
    Alike Eq SameMissing (collect (items.map step)) (collect (twins.map step)) := by
  have outcomes : List.Forall₂ (Alike Eq SameMissing) (items.map step) (twins.map step) := by
    rw [List.forall₂_map_left_iff, List.forall₂_map_right_iff]
    exact same.imp each
  have collected := Alike.collect outcomes
  rw [List.forall₂_eq_eq_eq] at collected
  exact collected

/-- **An expression in any case** becomes the same parts, or fails at the same name. -/
theorem alike_pieces (ignores : binding.IgnoresCase) {expression other : String}
    (same : sameName expression other) :
    Alike Eq SameMissing (scope.pieces binding expression) (scope.pieces binding other) := by
  exact alike_collect (Expression.forall₂_tokens same) fun _ _ => scope.alike_piece ignores

/-- Extents are rendered alike in any case. -/
theorem alike_extent (ignores : binding.IgnoresCase) {bound twin : Bound}
    (same : bound.SameText twin) :
    Alike Eq SameMissing (scope.extent binding bound) (scope.extent binding twin) := by
  refine (scope.alike_pieces ignores same.high).bind fun high _ highs => ?_
  refine (scope.alike_pieces ignores same.low).bind fun low _ lows => ?_
  rw [highs, lows]
  exact .ok rfl

theorem alike_extents (ignores : binding.IgnoresCase) {bounds twins : List Bound}
    (same : List.Forall₂ Bound.SameText bounds twins) :
    Alike Eq SameMissing (collect (bounds.map (scope.extent binding)))
      (collect (twins.map (scope.extent binding))) := by
  exact alike_collect same fun _ _ => scope.alike_extent ignores

theorem alike_groupsIn {shape other : String} (same : sameName shape other) :
    Alike Eq SameMissing (scope.groupsIn shape) (scope.groupsIn other) := by
  have slots := alike_collect (Expression.forall₂_names same) fun _ _ => scope.alike_resolve
  refine slots.bind fun found _ alike => ?_
  rw [alike]
  exact .ok rfl

end Scope

/-! ### Shapes -/

theorem splitOutside_map_toLower (depth : Nat) (cs : List Char) :
    splitOutside depth (cs.map Char.toLower) =
      (splitOutside depth cs).map (List.map Char.toLower) := by
  induction cs generalizing depth with
  | nil => rfl
  | cons c cs ih =>
      rw [List.map_cons]
      by_cases cut : c = ',' ∧ depth = 0
      · obtain ⟨rfl, rfl⟩ := cut
        exact congrArg (List.cons []) (ih 0)
      · have kept : ¬(c.toLower = ',' ∧ depth = 0) := by
          rw [toLower_eq_iff (by decide)]
          exact cut
        rw [splitOutside_cons cut, splitOutside_cons kept, nextDepth_toLower, ih]
        cases splitOutside (nextDepth depth c) cs with
        | nil => rfl
        | cons part parts => rfl

theorem stripParentheses_of_ne {c : Char} (other : c ≠ '(') (cs : List Char) :
    stripParentheses (c :: cs) = c :: cs := by
  unfold stripParentheses
  split
  · next spelled => exact absurd (List.cons.inj spelled).1 other
  · rfl

theorem stripParentheses_map_toLower (cs : List Char) :
    stripParentheses (cs.map Char.toLower) = (stripParentheses cs).map Char.toLower := by
  cases cs with
  | nil => rfl
  | cons c cs =>
      rw [List.map_cons]
      by_cases opens : c = '('
      · subst opens
        have ends : ((cs.map Char.toLower).getLast? == some ')') = (cs.getLast? == some ')') := by
          rw [List.getLast?_map]
          cases cs.getLast? with
          | none => rfl
          | some last => exact toLower_beq rfl last
        show stripParentheses ('(' :: cs.map Char.toLower) = _
        rw [stripParentheses, stripParentheses, ends]
        split
        · exact List.map_dropLast.symm
        · rfl
      · rw [stripParentheses_of_ne opens, stripParentheses_of_ne (toLower_ne (by decide) opens)]
        rfl

/-- The foreign form of a dimension is in lower case already. -/
theorem foreignChars_map_toLower (index : Nat) (part : List Char) :
    foreignChars index (part.map Char.toLower) = foreignChars index part := by
  have trimmed : trimChars (part.map Char.toLower) = [':'] ↔ trimChars part = [':'] := by
    rw [trimChars_map isBlank_toLower, List.map_eq_singleton_iff]
    constructor
    · rintro ⟨c, spelled, colon⟩
      rw [toLower_eq_iff (by decide)] at colon
      exact colon ▸ spelled
    · intro spelled
      exact ⟨':', spelled, by decide⟩
  by_cases isOpen : trimChars part = [':']
  · rw [foreignChars_of_open isOpen, foreignChars_of_open (trimmed.mpr isOpen)]
  · rw [foreignChars_of_closed isOpen, foreignChars_of_closed (mt trimmed.mp isOpen)]
    exact map_toLower_map_toLower part

/-- **The foreign form of a shape in lower case** is that of the shape. -/
theorem foreignForm_lower (shape : String) : foreignForm (lower shape) = foreignForm shape := by
  have entries : foreignEntries (lower shape).toList = foreignEntries shape.toList := by
    rw [foreignEntries, foreignEntries, toList_lower, trimChars_map isBlank_toLower,
      stripParentheses_map_toLower, splitOutside_map_toLower]
    refine List.ext_getElem (by simp) fun index _ _ => ?_
    simp only [List.getElem_mapIdx, List.getElem_map]
    exact foreignChars_map_toLower index _
  refine String.toList_inj.mp ?_
  rw [toList_foreignForm, toList_foreignForm, entries]

/-! ### All of it -/

/-- **Case does not matter in bounds.** For texts that are equal but for the case of ASCII letters, and
with no name bound or those of a routine's sizing arguments: the C text, the extents and the condition
that no extent is zero are the same, or they fail at the same name in whatever case; so do the groups
of a shape; and its foreign form is the same. -/
theorem Scope.alike_of_sameName (scope : Scope) {binding : Binding}
    (given : binding = .none ∨ ∃ routine : Routine, binding = routine.binding)
    {text other : String} (same : sameName text other)
    {bounds twins : List Bound} (sameBounds : List.Forall₂ Bound.SameText bounds twins) :
    Alike Eq SameMissing (scope.hostForm binding text) (scope.hostForm binding other) ∧
    List.Forall₂ (fun bound twin =>
      Alike Eq SameMissing ((scope.extent binding bound).map scope.extentText)
        ((scope.extent binding twin).map scope.extentText)) bounds twins ∧
    Alike Eq SameMissing ((collect (bounds.map (scope.extent binding))).map scope.nonzeroGuard)
      ((collect (twins.map (scope.extent binding))).map scope.nonzeroGuard) ∧
    Alike Eq SameMissing (scope.groupsIn text) (scope.groupsIn other) ∧
    foreignForm text = foreignForm other := by
  have ignores : binding.IgnoresCase := by
    rcases given with rfl | ⟨routine, rfl⟩
    · exact Binding.ignoresCase_none
    · exact routine.ignoresCase_binding
  refine ⟨?_, ?_, ?_, scope.alike_groupsIn same, ?_⟩
  · exact (scope.alike_pieces ignores same).map fun _ _ alike => congrArg _ alike
  · refine sameBounds.imp fun bound twin alike => ?_
    exact (scope.alike_extent ignores alike).map fun _ _ extents => congrArg _ extents
  · exact (scope.alike_extents ignores sameBounds).map fun _ _ extents => congrArg _ extents
  · rw [← foreignForm_lower text, sameName_iff.mp same, foreignForm_lower]

/-- A module with one scalar. -/
def singleScope : Scope where
  module := "wxy"
  dictionary := .ofScalars [Variable.scalar "N" .integer "sizes"]
  scalars := [Variable.scalar "N" .integer "sizes"]
  externals := []

/-- A routine whose first argument is sized by its second. -/
def scaleRoutine : Routine :=
  ((Routine.subroutine "scale").arg { name := "x", type := .real, bounds := [⟨"1", "Mx"⟩] }).arg
    { name := "mX", type := .integer }

/-- A scalar, a sizing argument and an exponent, spelled in two ways. -/
theorem Scope.alike_of_sameName_scale :
    singleScope.hostForm scaleRoutine.binding "(N,1.5D0*MX)" =
        .ok "(*(long *)wxy_fscalars[0].data,1.5e0*mx__)" ∧
      Alike Eq SameMissing (singleScope.hostForm scaleRoutine.binding "(N,1.5D0*MX)")
        (singleScope.hostForm scaleRoutine.binding "(n,1.5d0*mx)") ∧
      Alike Eq SameMissing
        ((collect ([⟨"Lo", "N"⟩].map (singleScope.extent scaleRoutine.binding))).map
          singleScope.nonzeroGuard)
        ((collect ([⟨"LO", "n"⟩].map (singleScope.extent scaleRoutine.binding))).map
          singleScope.nonzeroGuard) ∧
      foreignForm "(N,1.5D0*MX)" = foreignForm "(n,1.5d0*mx)" := by
  have written : singleScope.hostForm scaleRoutine.binding "(N,1.5D0*MX)" =
      .ok "(*(long *)wxy_fscalars[0].data,1.5e0*mx__)" := by
    decide +kernel
  have same : sameName "(N,1.5D0*MX)" "(n,1.5d0*mx)" := by decide
  have sameBounds : List.Forall₂ Bound.SameText [⟨"Lo", "N"⟩] [⟨"LO", "n"⟩] :=
    .cons ⟨by decide, by decide⟩ .nil
  obtain ⟨hosted, -, guarded, -, foreign⟩ :=
    singleScope.alike_of_sameName (.inr ⟨scaleRoutine, rfl⟩) same sameBounds
  exact ⟨written, hosted, guarded, foreign⟩

end ForeignGlue
