/-
**Expressions that cannot be read.**

Before an expression is evaluated, the characters between its numbers and names are taken one by one, each
as a slice of one byte. Such a slice ends inside a character that has more bytes, and then nothing is
evaluated at all. Blanks are left out before, and decimal digits of all scripts are part of numbers, so
every other character outside ASCII makes an expression unreadable.

* `isValid_after_iff`: where a slice of one byte ends;
* `cutsCharacter_iff`: the characters that are cut;
* `Tree.unknown_of_eval`: a name is reported only if it has no value;
* `evaluate_unreadable_iff`: when nothing is evaluated, and what comes out otherwise.
-/

import ForeignGlue.Proofs.Expression.Exact
import ForeignGlue.Proofs.Expression.Mentions
import ForeignGlue.Proofs.HostForm.SlotReads
import ForeignGlue.Proofs.Text.Utf8

namespace ForeignGlue

open ForeignGlue.Text

/-! ### Slices of one byte -/

theorem Text.utf8ByteSize_ofList (cs : List Char) : (String.ofList cs).utf8ByteSize = byteSize cs := by
  rw [← byteSize_toList, String.toList_ofList]

/-- **A slice of one byte** at the place of a character ends with the character exactly if this is an
ASCII character. -/
theorem Text.isValid_after_iff {before after : List Char} {c : Char} :
    String.Pos.Raw.IsValid (String.ofList (before ++ c :: after)) ⟨byteSize before + 1⟩ ↔ isAscii c := by
  rw [String.Pos.Raw.isValid_ofList]
  simp only [utf8ByteSize_ofList]
  constructor
  · rintro ⟨count, size⟩
    rw [List.take_append, byteSize_append] at size
    cases split : count - before.length with
    | zero =>
        have short : byteSize (before.take count) ≤ byteSize before := by
          conv => rhs; rw [← List.take_append_drop count before, byteSize_append]
          omega
        rw [split, List.take_zero, byteSize] at size
        omega
    | succ more =>
        rw [split, List.take_succ_cons, byteSize, List.take_of_length_le (by omega)] at size
        have positive := c.utf8Size_pos
        exact isAscii_of_utf8Size (by omega)
  · intro ascii
    refine ⟨before.length + 1, ?_⟩
    have single : c.utf8Size = 1 := by
      rw [← String.length_utf8EncodeChar, encode_of_isAscii ascii]
      rfl
    rw [List.take_length_add_append, byteSize_append, List.take_succ_cons, List.take_zero, byteSize,
      byteSize, single]

namespace Expression

/-- **A character is cut**: a slice of one byte, at the place of a character that is no blank and stands
between numbers and names, ends inside this character. -/
def CutsCharacter (expression : String) : Prop :=
  ∃ token ∈ tokens expression, token.kind = .other ∧
    ∃ before c after, token.chars = before ++ c :: after ∧ isBlank c = false ∧
      ¬ String.Pos.Raw.IsValid token.text ⟨byteSize before + 1⟩

theorem cutsCharacter_iff_mem {expression : String} : CutsCharacter expression ↔
    ∃ c, .symbol c ∈ lexemes expression ∧ isAscii c = false := by
  constructor
  · rintro ⟨⟨kind, chars⟩, listed, rfl, before, c, after, rfl, visible, inside⟩
    rw [Token.text, isValid_after_iff, Bool.not_eq_true] at inside
    refine ⟨c, List.mem_flatMap.mpr ⟨_, listed, ?_⟩, inside⟩
    simp [Token.lexemes, visible]
  · rintro ⟨c, member, other⟩
    obtain ⟨⟨kind, chars⟩, listed, inside⟩ := List.mem_flatMap.mp member
    cases kind with
    | number => simp [Token.lexemes] at inside
    | name => simp [Token.lexemes] at inside
    | other =>
        obtain ⟨written, visible⟩ : c ∈ chars ∧ isBlank c = false := by
          simpa [Token.lexemes] using inside
        obtain ⟨before, after, rfl⟩ := List.append_of_mem written
        refine ⟨_, listed, rfl, before, c, after, rfl, visible, ?_⟩
        rw [Token.text, isValid_after_iff, other]
        exact Bool.false_ne_true

/-! ### Which characters are cut -/

/-- The characters of numbers are ASCII characters and decimal digits. -/
theorem isAscii_of_isNumberChar {c : Char} (inNumber : isNumberChar c)
    (noDigit : isDecimalDigit c = false) : isAscii c := by
  rw [isNumberChar, noDigit, Bool.false_or, List.contains_iff_mem] at inNumber
  have known : ∀ c ∈ ['.', '+', '-', 'e', 'E', 'd', 'D'], isAscii c := forall_mem_of_all (by decide)
  exact known c inNumber

/-- A character outside ASCII that is no decimal digit stands between numbers and names. -/
theorem symbol_mem_lexemes {expression : String} {c : Char} (member : c ∈ expression.toList)
    (foreign : isAscii c = false) (visible : isBlank c = false) (noDigit : isDecimalDigit c = false) :
    .symbol c ∈ lexemes expression := by
  rw [← flatMap_tokensFrom expression.toList] at member
  obtain ⟨⟨kind, chars⟩, listed, inside⟩ := List.mem_flatMap.mp member
  refine List.mem_flatMap.mpr ⟨_, listed, ?_⟩
  cases kind with
  | number =>
      have inNumber := hasKind_of_mem_tokensFrom _ listed c inside
      rw [isAscii_of_isNumberChar inNumber noDigit] at foreign
      cases foreign
  | name =>
      have isName : IsIdentifier chars := wellFormed_of_mem_tokensFrom listed
      have inName := List.all_eq_true.mp (all_isNameChar_of_isIdentifier isName) c inside
      rw [isAscii_of_isNameChar inName] at foreign
      cases foreign
  | other => simpa [Token.lexemes] using ⟨inside, visible⟩

/-- **The characters that are cut**: those outside ASCII, blanks and decimal digits apart. -/
theorem cutsCharacter_iff {expression : String} : CutsCharacter expression ↔
    ∃ c ∈ expression.toList, isAscii c = false ∧ isBlank c = false ∧ isDecimalDigit c = false := by
  rw [cutsCharacter_iff_mem]
  constructor
  · rintro ⟨c, member, foreign⟩
    obtain ⟨noDigit, visible, inside⟩ := not_isDecimalDigit_of_mem_lexemes member
    exact ⟨c, inside, foreign, visible, noDigit⟩
  · rintro ⟨c, inside, foreign, visible, noDigit⟩
    exact ⟨c, symbol_mem_lexemes inside foreign visible noDigit, foreign⟩

theorem isReadable_iff {expression : String} : isReadable expression ↔ ¬ CutsCharacter expression := by
  rw [cutsCharacter_iff_mem, isReadable, List.all_eq_true]
  constructor
  · rintro readable ⟨c, member, foreign⟩
    rw [show isAscii c = true from readable _ member] at foreign
    cases foreign
  · intro whole lexeme member
    cases lexeme with
    | number digits => rfl
    | name label => rfl
    | symbol c =>
        show isAscii c = true
        rw [← Bool.not_eq_false]
        exact fun foreign => whole ⟨c, member, foreign⟩

/-! ### What comes out -/

theorem checked_eq_error {value : Int} {fault : Fault} (failed : checked value = .error fault) :
    fault = .overflow := by
  unfold checked at failed
  split at failed
  · cases failed
  · exact (Except.error.inj failed).symm

/-- An operator knows no names. -/
theorem Operator.apply_ne_unknown {operator : Operator} {left right : Int} {label : String} :
    operator.apply left right ≠ .error (.unknown label) := by
  have notChecked (value : Int) : checked value ≠ .error (.unknown label) :=
    fun failed => Fault.noConfusion (checked_eq_error failed)
  cases operator with
  | add => exact notChecked _
  | sub => exact notChecked _
  | mul => exact notChecked _
  | div =>
      rw [Operator.apply]
      split
      · exact fun failed => Fault.noConfusion (Except.error.inj failed)
      · exact notChecked _

/-- A name is reported only if it has no value. -/
theorem Tree.unknown_of_eval {lookup : String → Option Int} {tree : Tree} {label : String}
    (failed : tree.eval lookup = .error (.unknown label)) : label ∈ tree.names ∧ lookup label = none := by
  induction tree with
  | number digits =>
      rw [eval, literalValue] at failed
      split at failed
      · cases failed
      · cases Except.error.inj failed
  | name other =>
      rw [eval] at failed
      split at failed
      · cases checked_eq_error failed
      · next unknown =>
          cases failed
          exact ⟨List.mem_cons_self, unknown⟩
  | negated operand ih =>
      rcases bind_eq_error_iff.mp failed with inner | ⟨_, -, outer⟩
      · exact ih inner
      · cases checked_eq_error outer
  | binary operator left right leftIh rightIh =>
      rcases bind_eq_error_iff.mp failed with inLeft | ⟨_, -, failed⟩
      · exact (leftIh inLeft).imp_left (List.mem_append_left _)
      · rcases bind_eq_error_iff.mp failed with inRight | ⟨_, -, applied⟩
        · exact (rightIh inRight).imp_left (List.mem_append_right _)
        · exact absurd applied Operator.apply_ne_unknown
  | missing => cases Except.error.inj failed
  | unclosed inner ih =>
      rcases bind_eq_error_iff.mp failed with inside | ⟨_, -, unfinished⟩
      · exact ih inside
      · cases Except.error.inj unfinished

/-- What comes out of an expression that can be read: a 64-bit integer, a name in it that has no value,
or one of three mistakes in the expression. -/
inductive IsOutcome (expression : String) (lookup : String → Option Int) : Except EvalError Int → Prop
  | value {value : Int} (fits : fitsWord value) : IsOutcome expression lookup (.ok value)
  | unknown {name : String} (mentioned : name ∈ names expression) (noValue : lookup name = none) :
      IsOutcome expression lookup (.error (.unknown name))
  | malformed : IsOutcome expression lookup (.error (.malformed expression))
  | divisionByZero : IsOutcome expression lookup (.error (.divisionByZero expression))
  | overflow : IsOutcome expression lookup (.error (.overflow expression))

theorem isOutcome_of_fault {expression : String} {lookup : String → Option Int} {fault : Fault}
    (known : ∀ name, fault = .unknown name → name ∈ names expression ∧ lookup name = none) :
    IsOutcome expression lookup (.error (fault.inExpression expression)) := by
  cases fault with
  | unknown name => exact .unknown (known name rfl).1 (known name rfl).2
  | malformed => exact .malformed
  | divisionByZero => exact .divisionByZero
  | overflow => exact .overflow

/-- Whatever can be read has an outcome. -/
theorem isOutcome_evaluate {expression : String} (readable : isReadable expression)
    (lookup : String → Option Int) : IsOutcome expression lookup (evaluate expression lookup) := by
  cases result : evaluate expression lookup with
  | ok value => exact .value (Tree.fitsWord_of_eval (readTree_of_evaluate result).1)
  | error error =>
      rw [evaluate, if_pos readable] at result
      obtain ⟨fault, failed, rfl⟩ := mapError_eq_error_iff.mp result
      refine isOutcome_of_fault ?_
      rintro name rfl
      rcases bind_eq_error_iff.mp failed with inTree | ⟨_, -, unfinished⟩
      · exact (Tree.unknown_of_eval inTree).imp_left mem_names_of_readTree
      · split at unfinished
        · cases unfinished
        · cases Except.error.inj unfinished

/-- **Nothing is evaluated exactly if a character is cut**, and this is so exactly if the expression has
a character outside ASCII that is neither a blank nor a decimal digit, wherever it stands. Every other
expression has a 64-bit integer as its value, or one of four errors. -/
theorem evaluate_unreadable_iff (expression : String) (lookup : String → Option Int) :
    (evaluate expression lookup = .error .unreadable ↔ CutsCharacter expression) ∧
      (evaluate expression lookup = .error .unreadable ↔
        ∃ c ∈ expression.toList, isAscii c = false ∧ isBlank c = false ∧ isDecimalDigit c = false) ∧
      ((∀ c ∈ expression.toList, isAscii c ∨ isBlank c ∨ isDecimalDigit c) →
        IsOutcome expression lookup (evaluate expression lookup)) := by
  have aborts : evaluate expression lookup = .error .unreadable ↔ CutsCharacter expression := by
    by_cases readable : isReadable expression
    · have outcome := isOutcome_evaluate readable lookup
      refine iff_of_false (fun aborted => ?_) (isReadable_iff.mp readable)
      rw [aborted] at outcome
      cases outcome
    · exact iff_of_true (if_neg readable) (not_not.mp (mt isReadable_iff.mpr readable))
  refine ⟨aborts, aborts.trans cutsCharacter_iff, fun plain => ?_⟩
  refine isOutcome_evaluate (isReadable_iff.mpr fun cut => ?_) lookup
  obtain ⟨c, member, foreign, visible, noDigit⟩ := cutsCharacter_iff.mp cut
  simpa [foreign, visible, noDigit] using plain c member

/-- A letter outside ASCII beside a name, in an expression that divides by zero and is not closed. -/
def accentedName : String :=
  "1/0+(n\u00e9"

/-- A blank outside ASCII, and a digit of another script. -/
def foreignDigit : String :=
  "n +\u00a0\u0663"

theorem evaluate_unreadable_iff_accentedName :
    (evaluate accentedName fun _ => none) = .error .unreadable ∧
      IsOutcome foreignDigit (fun _ => some 1) (evaluate foreignDigit fun _ => some 1) := by
  obtain ⟨-, aborts, -⟩ := evaluate_unreadable_iff accentedName fun _ => none
  obtain ⟨-, -, otherwise⟩ := evaluate_unreadable_iff foreignDigit fun _ => some 1
  refine ⟨aborts.mpr ⟨'\u00e9', by decide +kernel, by decide, by decide, by decide⟩, otherwise ?_⟩
  exact forall_mem_of_all (by decide +kernel)

end Expression

end ForeignGlue
