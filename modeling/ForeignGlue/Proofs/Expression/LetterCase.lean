/-
**Tokens in any case.**

Letters matter to the cut of an expression as the start or the inside of a name, and as the mark of an
exponent. None of these tells upper case from lower case, so an expression and its lower case are cut
in the same places.

* `numberLength_map_toLower`, `nameLength_map_toLower`: tokens reach equally far;
* `tokens_lower`: the tokens of the lower case are the tokens in lower case;
* `forall₂_names`: expressions that differ in case mention names that differ in case.
-/

import ForeignGlue.Proofs.ScalarIndex.Lookup
import ForeignGlue.Proofs.Text.Respelling
import Mathlib.Data.List.Forall2

namespace ForeignGlue

open ForeignGlue.Text

theorem Text.isDecimalDigit_toLower (c : Char) : isDecimalDigit c.toLower = isDecimalDigit c :=
  apply_toLower (fun _ start => not_isDecimalDigit_of_isNameStart start) c

/-- A character that is no letter is told from others in any case. -/
theorem Text.toLower_beq {mark : Char} (other : isNameStart mark = false) (c : Char) :
    (c.toLower == mark) = (c == mark) := by
  rw [Bool.eq_iff_iff, beq_iff_eq, beq_iff_eq]
  exact toLower_eq_iff other

namespace Expression

/-! ### How far a token reaches -/

theorem digitRun_map_toLower (cs : List Char) : digitRun (cs.map Char.toLower) = digitRun cs := by
  have same : isDecimalDigit ∘ Char.toLower = isDecimalDigit := funext isDecimalDigit_toLower
  rw [digitRun, List.takeWhile_map, same, List.length_map]
  rfl

theorem signedDigitRun_map_toLower (cs : List Char) :
    signedDigitRun (cs.map Char.toLower) = signedDigitRun cs := by
  cases cs with
  | nil => rfl
  | cons c cs =>
      have whole := digitRun_map_toLower (c :: cs)
      have plus : (c.toLower == '+') = (c == '+') := toLower_beq rfl c
      have minus : (c.toLower == '-') = (c == '-') := toLower_beq rfl c
      rw [List.map_cons] at whole ⊢
      rw [signedDigitRun, signedDigitRun, plus, minus, whole, digitRun_map_toLower]

/-- Both cases of a letter mark an exponent, or none does. -/
theorem isExponentMark_toLower (c : Char) :
    (c.toLower == 'e' || c.toLower == 'E' || c.toLower == 'd' || c.toLower == 'D') =
      (c == 'e' || c == 'E' || c == 'd' || c == 'D') := by
  cases isStart : isNameStart c with
  | false => rw [toLower_of_not_isNameStart isStart]
  | true =>
      have known : ∀ code < 128,
          ((Char.ofNat code).toLower == 'e' || (Char.ofNat code).toLower == 'E' ||
            (Char.ofNat code).toLower == 'd' || (Char.ofNat code).toLower == 'D') =
          (Char.ofNat code == 'e' || Char.ofNat code == 'E' || Char.ofNat code == 'd' ||
            Char.ofNat code == 'D') := by
        decide
      have here := known c.toNat (of_decide_eq_true (isAscii_of_isNameChar
        (isNameChar_of_isNameStart isStart)))
      rw [Char.ofNat_toNat] at here
      exact here

theorem exponentLength_map_toLower (cs : List Char) :
    exponentLength (cs.map Char.toLower) = exponentLength cs := by
  cases cs with
  | nil => rfl
  | cons c cs =>
      rw [List.map_cons, exponentLength, exponentLength, isExponentMark_toLower,
        signedDigitRun_map_toLower]

theorem pointLength_map_toLower (cs : List Char) :
    pointLength (cs.map Char.toLower) = pointLength cs := by
  cases cs with
  | nil => rfl
  | cons c cs =>
      rw [List.map_cons, pointLength, pointLength, digitRun_map_toLower, toLower_beq rfl]

theorem mantissaLength_map_toLower (cs : List Char) :
    mantissaLength (cs.map Char.toLower) = mantissaLength cs := by
  rw [mantissaLength, mantissaLength, digitRun_map_toLower, pointLength_map_toLower, ← List.map_drop,
    pointLength_map_toLower]

/-- A number is as long in any case. -/
theorem numberLength_map_toLower (cs : List Char) :
    numberLength (cs.map Char.toLower) = numberLength cs := by
  rw [numberLength, numberLength, mantissaLength_map_toLower, ← List.map_drop,
    exponentLength_map_toLower]

/-- A name is as long in any case. -/
theorem nameLength_map_toLower (cs : List Char) :
    nameLength (cs.map Char.toLower) = nameLength cs := by
  have same : isNameChar ∘ Char.toLower = isNameChar := funext isNameChar_toLower_eq
  cases cs with
  | nil => rfl
  | cons c cs =>
      rw [List.map_cons, nameLength, nameLength, isNameStart_toLower_eq, List.takeWhile_map, same,
        List.length_map]

/-! ### Tokens -/

/-- A token in lower case. -/
def Token.lowered (token : Token) : Token where
  kind := token.kind
  chars := token.chars.map Char.toLower

theorem Token.text_lowered (token : Token) : token.lowered.text = lower token.text := by
  rw [Token.text, Token.text, lower, String.toList_ofList]
  rfl

theorem consOther_lowered (c : Char) (tokens : List Token) :
    consOther c.toLower (tokens.map Token.lowered) = (consOther c tokens).map Token.lowered := by
  cases tokens with
  | nil => rfl
  | cons token tokens =>
      obtain ⟨kind, chars⟩ := token
      cases kind with
      | number => rfl
      | name => rfl
      | other => rfl

/-- **The cut does not depend on the case of letters.** -/
theorem tokensFrom_map_toLower (skip : Nat) (cs : List Char) :
    tokensFrom skip (cs.map Char.toLower) = (tokensFrom skip cs).map Token.lowered := by
  induction cs generalizing skip with
  | nil => cases skip <;> rfl
  | cons c cs ih =>
      cases skip with
      | succ skip => exact ih skip
      | zero =>
          have number := numberLength_map_toLower (c :: cs)
          have name := nameLength_map_toLower (c :: cs)
          rw [List.map_cons] at number name ⊢
          rw [tokensFrom, tokensFrom, number, name, ih, ih, ih, consOther_lowered, ← List.map_cons,
            ← List.map_take, ← List.map_take]
          split
          · rfl
          · split
            · rfl
            · rfl

/-- **The tokens of the lower case** are the tokens in lower case. -/
theorem tokens_lower (expression : String) :
    tokens (lower expression) = (tokens expression).map Token.lowered := by
  rw [tokens, toList_lower]
  exact tokensFrom_map_toLower 0 _

variable {expression other : String}

/-- Expressions that differ in case have tokens that differ in case, one by one. -/
theorem forall₂_tokens (same : sameName expression other) :
    List.Forall₂ (fun token twin => token.lowered = twin.lowered) (tokens expression)
      (tokens other) := by
  have lowered : (tokens expression).map Token.lowered = (tokens other).map Token.lowered := by
    rw [← tokens_lower, ← tokens_lower, sameName_iff.mp same]
  rw [← List.forall₂_eq_eq_eq, List.forall₂_map_left_iff, List.forall₂_map_right_iff] at lowered
  exact lowered

theorem Token.sameName_text {token twin : Token} (same : token.lowered = twin.lowered) :
    sameName token.text twin.text := by
  rw [sameName_iff, ← Token.text_lowered, ← Token.text_lowered, same]

/-- Texts that differ in the case of letters mention the same names. -/
theorem forall₂_names (same : sameName expression other) :
    List.Forall₂ (fun name twin => sameName name twin = true) (names expression) (names other) := by
  rw [names, names, List.forall₂_map_left_iff, List.forall₂_map_right_iff]
  have alike := forall₂_tokens same
  generalize tokens expression = ts, tokens other = us at alike
  induction alike with
  | nil => exact .nil
  | @cons token twin _ _ here _ ih =>
      have kinds : token.lowered.kind = twin.lowered.kind := congrArg Token.kind here
      change token.kind = twin.kind at kinds
      rw [List.filter_cons, List.filter_cons, kinds]
      split
      · exact .cons (Token.sameName_text here) ih
      · exact ih

end Expression

end ForeignGlue
