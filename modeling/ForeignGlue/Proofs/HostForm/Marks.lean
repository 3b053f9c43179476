/-
**The marks of a bound, on both sides.**

The host form of a bound is its own text, in which every name has become a reference to a slot. Marks
are what the two texts have in common: the numbers, the names and the single characters between
them, blanks included.

* `flatMap_chars_marks`: the marks of a bound spell it.
* `lexemes_eq_filter_marks`: its lexemes are its marks without the blanks.
* `mem_marks_name`, `mem_marks_number`: a name is an identifier, and a number is not empty.
* `hostForm_eq`: the host form is spelled by the same marks, names replaced.
-/

import ForeignGlue.Expression.Tree
import ForeignGlue.Proofs.Text.CharClass
import ForeignGlue.Scope

namespace ForeignGlue.Expression

open ForeignGlue.Text

/-! ### Marks -/

/-- The lexemes of a token, its blanks kept. -/
def Token.marks (token : Token) : List Lexeme :=
  match token.kind with
  | .number => [.number token.chars]
  | .name => [.name token.text]
  | .other => token.chars.map .symbol

/-- The lexemes of an expression, its blanks kept. -/
def marks (expression : String) : List Lexeme :=
  (tokens expression).flatMap Token.marks

namespace Lexeme

/-- Whether a lexeme is a blank. -/
def isBlank : Lexeme → Bool
  | .symbol c => Text.isBlank c
  | _ => false

/-- The characters of a lexeme. -/
def chars : Lexeme → List Char
  | .number digits => digits
  | .name label => label.toList
  | .symbol c => [c]

end Lexeme

theorem flatMap_chars_marks (expression : String) :
    (marks expression).flatMap Lexeme.chars = expression.toList := by
  have each (token : Token) : token.marks.flatMap Lexeme.chars = token.chars := by
    unfold Token.marks
    cases token.kind with
    | number => simp [Lexeme.chars]
    | name => simp [Lexeme.chars, Token.text]
    | other => simp [List.flatMap_map, Lexeme.chars]
  simp only [marks, List.flatMap_assoc, each]
  exact flatMap_tokensFrom expression.toList

theorem lexemes_eq_filter_marks (expression : String) :
    lexemes expression = (marks expression).filter fun mark => !mark.isBlank := by
  have each (token : Token) :
      token.marks.filter (fun mark => !mark.isBlank) = token.lexemes := by
    unfold Token.marks Token.lexemes
    cases token.kind with
    | number => rfl
    | name => rfl
    | other =>
        rw [List.filter_map]
        rfl
  simp only [lexemes, marks, List.filter_flatMap, each]

/-! ### Names and numbers -/

/-- A text that is an identifier. -/
def IsIdentifier (text : List Char) : Prop :=
  ∃ c cs, text = c :: cs ∧ isNameStart c ∧ cs.all isNameChar

instance (text : List Char) : Decidable (IsIdentifier text) :=
  match text with
  | [] => .isFalse nofun
  | c :: cs =>
    decidable_of_iff (isNameStart c ∧ cs.all isNameChar)
      ⟨fun valid => ⟨c, cs, rfl, valid⟩, fun ⟨_, _, same, valid⟩ => by cases same; exact valid⟩

/-- What a token of a kind looks like: a number is not empty, and a name is an identifier. -/
def Token.WellFormed (token : Token) : Prop :=
  match token.kind with
  | .number => token.chars ≠ []
  | .name => IsIdentifier token.chars
  | .other => True

theorem isIdentifier_take {c : Char} {cs : List Char} (reaches : nameLength (c :: cs) ≠ 0) :
    IsIdentifier ((c :: cs).take (nameLength (c :: cs))) := by
  by_cases start : isNameStart c
  · refine ⟨c, cs.takeWhile isNameChar, ?_, start, List.all_takeWhile⟩
    rw [nameLength, if_pos start, List.take_succ_cons,
      ← List.prefix_iff_eq_take.mp (List.takeWhile_prefix isNameChar)]
  · simp [nameLength, start] at reaches

/-- The characters of a token, each of which was cut off where it stands. -/
def Token.CutAs (number name : List Char → Prop) (other : Char → Prop) (token : Token) : Prop :=
  match token.kind with
  | .number => number token.chars
  | .name => name token.chars
  | .other => ∀ c ∈ token.chars, other c

/-- **What the cut makes of a text**, from what it finds at the places where a token starts. -/
theorem cutAs_of_mem_tokensFrom {number name : List Char → Prop} {other : Char → Prop}
    (isNumber : ∀ c cs, numberLength (c :: cs) ≠ 0 →
      number ((c :: cs).take (numberLength (c :: cs))))
    (isName : ∀ c cs, nameLength (c :: cs) ≠ 0 → name ((c :: cs).take (nameLength (c :: cs))))
    (isOther : ∀ c cs, numberLength (c :: cs) = 0 → nameLength (c :: cs) = 0 → other c)
    {cs : List Char} : ∀ token ∈ tokensFrom 0 cs, token.CutAs number name other := by
  induction size : cs.length using Nat.strongRecOn generalizing cs with
  | ind n ih =>
      cases cs with
      | nil => simp [tokensFrom]
      | cons c cs =>
          have later (skip : Nat) : ∀ token ∈ tokensFrom skip cs, token.CutAs number name other := by
            rw [tokensFrom_eq_drop]
            exact ih _ (by simp at size ⊢; omega) rfl
          rw [tokensFrom]
          by_cases noNumber : numberLength (c :: cs) = 0
          · rw [if_neg fun reaches => reaches noNumber]
            by_cases noName : nameLength (c :: cs) = 0
            · rw [if_neg fun reaches => reaches noName]
              have here : other c := isOther c cs noNumber noName
              have each := later 0
              unfold consOther
              split
              · next more tokens same =>
                  rw [same] at each
                  obtain ⟨first, rest⟩ := List.forall_mem_cons.mp each
                  exact List.forall_mem_cons.mpr ⟨List.forall_mem_cons.mpr ⟨here, first⟩, rest⟩
              · exact List.forall_mem_cons.mpr ⟨List.forall_mem_singleton.mpr here, each⟩
            · rw [if_pos noName]
              exact List.forall_mem_cons.mpr ⟨isName c cs noName, later _⟩
          · rw [if_pos noNumber]
            exact List.forall_mem_cons.mpr ⟨isNumber c cs noNumber, later _⟩

theorem wellFormed_of_mem_tokensFrom {cs : List Char} {token : Token}
    (member : token ∈ tokensFrom 0 cs) : token.WellFormed := by
  have cut : token.CutAs (· ≠ []) IsIdentifier fun _ => True :=
    cutAs_of_mem_tokensFrom (fun _ _ reaches => by simp [reaches])
      (fun _ _ reaches => isIdentifier_take reaches) (fun _ _ _ _ => trivial) token member
  obtain ⟨_ | _ | _, chars⟩ := token
  · exact cut
  · exact cut
  · exact trivial

/-- Every name that a bound mentions is an identifier. -/
theorem mem_marks_name {expression label : String} (member : .name label ∈ marks expression) :
    IsIdentifier label.toList ∧ label ∈ names expression := by
  obtain ⟨token, listed, inside⟩ := List.mem_flatMap.mp member
  have wellFormed := wellFormed_of_mem_tokensFrom listed
  unfold Token.marks at inside
  unfold Token.WellFormed at wellFormed
  cases kind : token.kind with
  | number => simp [kind] at inside
  | other => simp [kind] at inside
  | name =>
      simp only [kind, List.mem_singleton, Lexeme.name.injEq] at inside wellFormed
      subst inside
      refine ⟨by simpa [Token.text] using wellFormed, ?_⟩
      exact List.mem_map.mpr ⟨token, List.mem_filter.mpr ⟨listed, by simp [kind]⟩, rfl⟩

/-- No number of a bound is empty. -/
theorem mem_marks_number {expression : String} {digits : List Char}
    (member : .number digits ∈ marks expression) : digits ≠ [] := by
  obtain ⟨token, listed, inside⟩ := List.mem_flatMap.mp member
  have wellFormed := wellFormed_of_mem_tokensFrom listed
  unfold Token.marks at inside
  unfold Token.WellFormed at wellFormed
  cases kind : token.kind with
  | name => simp [kind] at inside
  | other => simp [kind] at inside
  | number =>
      simp only [kind, List.mem_singleton, Lexeme.number.injEq] at inside wellFormed
      rw [inside]
      exact wellFormed

end ForeignGlue.Expression

namespace ForeignGlue

open ForeignGlue.Expression
open ForeignGlue.Text

/-! ### The host form -/

namespace Scope

/-- The table of a slot and its place there. -/
def reference (scope : Scope) : Slot → String × Nat
  | .own slot => (scope.module ++ "_fscalars", slot)
  | .external index slot => (index.tableName, slot)

/-- The table and the place of a name that resolves. -/
def place (scope : Scope) (name : String) : String × Nat :=
  match scope.resolve name with
  | .ok slot => scope.reference slot
  | .error _ => ("", 0)

end Scope

/-- The characters that read a slot of a table. -/
def referenceChars (reference : String × Nat) : List Char :=
  ['*', '(', 'l', 'o', 'n', 'g', ' ', '*', ')'] ++ reference.1.toList ++ ['['] ++
    Nat.toDigits 10 reference.2 ++ [']', '.', 'd', 'a', 't', 'a']

theorem toList_slotText (scope : Scope) (slot : Slot) :
    (scope.slotText slot).toList = referenceChars (scope.reference slot) := by
  have spelled (table : String) (index : Nat) :
      ("*(long *)" ++ table ++ "[" ++ toString index ++ "].data").toList =
        referenceChars (table, index) := by
    simp [referenceChars]
  cases slot with
  | own slot =>
      rw [Scope.reference, ← spelled]
      show ("*(long *)" ++ scope.module ++ "_fscalars[" ++ toString slot ++ "].data").toList = _
      simp
  | external index slot =>
      rw [Scope.reference, ← spelled]
      rfl

/-- The characters of a lexeme in C. -/
def Expression.Lexeme.hostChars (place : String → String × Nat) : Lexeme → List Char
  | .number digits => digits
  | .name label => referenceChars (place label)
  | .symbol c => [c]

/-- What the host form of marks rests on: every name resolves, every number is of digits, and no
letter stands outside the names. -/
structure Rendered (scope : Scope) (marks : List Lexeme) : Prop where
  resolves : ∀ label, .name label ∈ marks → ∃ slot, scope.resolve label = .ok slot
  decimal : ∀ digits, .number digits ∈ marks → digits.all Char.isDigit
  caseless : ∀ c, .symbol c ∈ marks → isNameStart c = false

/-- A token is written in lower case, which only a letter outside names would notice. -/
theorem exists_piece {scope : Scope} {token : Token} (rendered : Rendered scope token.marks) :
    ∃ piece, scope.piece .none token = .ok piece ∧
      (scope.pieceText piece).toList = token.marks.flatMap (Lexeme.hostChars scope.place) := by
  obtain ⟨resolves, decimal, caseless⟩ := rendered
  unfold Scope.piece
  unfold Token.marks at resolves decimal caseless ⊢
  cases kind : token.kind with
  | name =>
      rw [kind] at resolves
      obtain ⟨slot, resolved⟩ := resolves token.text (by simp)
      refine ⟨.slot slot, by simp [Binding.none, resolved, Except.map], ?_⟩
      simp [Scope.pieceText, toList_slotText, Lexeme.hostChars, Scope.place, resolved]
  | number =>
      rw [kind] at decimal
      have digits := decimal token.chars (by simp)
      refine ⟨_, rfl, ?_⟩
      have same : ∀ c ∈ token.chars, (if c.toLower == 'd' then 'e' else c.toLower) = c := by
        intro c member
        have digit := List.all_eq_true.mp digits c member
        have other : isNameStart c = false := by
          rw [← Bool.not_eq_true]
          intro start
          rw [not_isDigit_of_isNameStart start] at digit
          cases digit
        rw [toLower_of_not_isNameStart other, if_neg]
        intro isD
        rw [beq_iff_eq.mp isD] at other
        exact absurd other (by decide)
      simp [Scope.pieceText, Scope.numberText, Lexeme.hostChars]
      simpa using List.map_congr_left same
  | other =>
      rw [kind] at caseless
      refine ⟨_, rfl, ?_⟩
      have same : ∀ c ∈ token.chars, c.toLower = c := fun c member =>
        toLower_of_not_isNameStart (caseless c (by simpa using member))
      simp [Scope.pieceText, Token.text, List.flatMap_map, Lexeme.hostChars]
      simpa using List.map_congr_left same

theorem exists_pieces {scope : Scope} {tokens : List Token}
    (rendered : Rendered scope (tokens.flatMap Token.marks)) :
    ∃ pieces, collect (tokens.map (scope.piece .none)) = .ok pieces ∧
      (scope.piecesText pieces).toList =
        (tokens.flatMap Token.marks).flatMap (Lexeme.hostChars scope.place) := by
  induction tokens with
  | nil => exact ⟨[], rfl, rfl⟩
  | cons token tokens ih =>
      have first : Rendered scope token.marks :=
        ⟨fun label member => rendered.resolves label (List.mem_append_left _ member),
          fun digits member => rendered.decimal digits (List.mem_append_left _ member),
          fun c member => rendered.caseless c (List.mem_append_left _ member)⟩
      have rest : Rendered scope (tokens.flatMap Token.marks) :=
        ⟨fun label member => rendered.resolves label (List.mem_append_right _ member),
          fun digits member => rendered.decimal digits (List.mem_append_right _ member),
          fun c member => rendered.caseless c (List.mem_append_right _ member)⟩
      obtain ⟨piece, read, spelled⟩ := exists_piece first
      obtain ⟨pieces, collected, spelledRest⟩ := ih rest
      refine ⟨piece :: pieces, by simp [collect, read, collected], ?_⟩
      simp only [Scope.piecesText, String.toList_join] at spelledRest ⊢
      simp [spelled, spelledRest]

/-- **The host form**: the text of the bound with every name replaced by its slot. -/
theorem hostForm_eq {scope : Scope} {expression : String}
    (rendered : Rendered scope (marks expression)) :
    ∃ text, scope.hostForm .none expression = .ok text ∧
      text.toList = (marks expression).flatMap (Lexeme.hostChars scope.place) := by
  obtain ⟨pieces, collected, spelled⟩ := exists_pieces rendered
  refine ⟨scope.piecesText pieces, ?_, spelled⟩
  rw [Scope.hostForm, Scope.pieces, collected]
  rfl

end ForeignGlue
