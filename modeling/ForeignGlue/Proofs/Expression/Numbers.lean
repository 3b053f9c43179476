/-
**The spelling of numbers.**

A number token is as long as the cut can make it. What it can look like is a small grammar: digits with
or without a point, and perhaps an exponent. `isNumber_of_mem_tokens` says that every number token is
of this grammar, by `isMantissa_take` and `isExponent_take` for its two parts.
-/

import ForeignGlue.Proofs.HostForm.Marks

namespace ForeignGlue.Expression

open ForeignGlue.Text

/-! ### The grammar -/

/-- One or more digits. -/
def IsDigits (cs : List Char) : Prop :=
  cs ≠ [] ∧ cs.all isDecimalDigit

/-- The letters that introduce an exponent. -/
def isExponentLetter (c : Char) : Bool :=
  c == 'e' || c == 'E' || c == 'd' || c == 'D'

/-- The signs of an exponent. -/
def isSign (c : Char) : Bool :=
  c == '+' || c == '-'

/-- Digits, with or without a point. One of its sides may be empty. -/
inductive IsMantissa : List Char → Prop
  | whole {digits : List Char} (isDigits : IsDigits digits) : IsMantissa digits
  | point {digits fraction : List Char} (isDigits : IsDigits digits)
      (isFraction : fraction.all isDecimalDigit) : IsMantissa (digits ++ '.' :: fraction)
  | fraction {digits : List Char} (isDigits : IsDigits digits) : IsMantissa ('.' :: digits)

/-- A letter and digits, with or without a sign. -/
inductive IsExponent : List Char → Prop
  | plain {letter : Char} {digits : List Char} (isLetter : isExponentLetter letter)
      (isDigits : IsDigits digits) : IsExponent (letter :: digits)
  | signed {letter sign : Char} {digits : List Char} (isLetter : isExponentLetter letter)
      (isSign : isSign sign) (isDigits : IsDigits digits) : IsExponent (letter :: sign :: digits)

/-- **The numbers**: a mantissa, with or without an exponent. -/
inductive IsNumber : List Char → Prop
  | plain {mantissa : List Char} (isMantissa : IsMantissa mantissa) : IsNumber mantissa
  | scaled {mantissa exponent : List Char} (isMantissa : IsMantissa mantissa)
      (isExponent : IsExponent exponent) : IsNumber (mantissa ++ exponent)

/-! ### The cut -/

theorem take_digitRun (cs : List Char) : cs.take (digitRun cs) = cs.takeWhile isDecimalDigit :=
  (List.prefix_iff_eq_take.mp (List.takeWhile_prefix isDecimalDigit)).symm

theorem all_take_digitRun (cs : List Char) : (cs.take (digitRun cs)).all isDecimalDigit := by
  rw [take_digitRun]
  exact List.all_takeWhile

theorem isDigits_take {cs : List Char} (reaches : digitRun cs ≠ 0) : IsDigits (cs.take (digitRun cs)) := by
  refine ⟨?_, all_take_digitRun cs⟩
  rw [take_digitRun]
  exact fun none => reaches (congrArg List.length none)

theorem exists_point {cs : List Char} (reaches : pointLength cs ≠ 0) :
    ∃ rest, pointLength cs = digitRun rest + 1 ∧
      cs.take (pointLength cs) = '.' :: rest.take (digitRun rest) := by
  cases cs with
  | nil => exact absurd rfl reaches
  | cons c rest =>
      by_cases isPoint : (c == '.') = true
      · refine ⟨rest, if_pos isPoint, ?_⟩
        rw [pointLength, if_pos isPoint, List.take_succ_cons, beq_iff_eq.mp isPoint]
      · exact absurd (if_neg isPoint) reaches

theorem isMantissa_take {cs : List Char} (reaches : mantissaLength cs ≠ 0) :
    IsMantissa (cs.take (mantissaLength cs)) := by
  rw [mantissaLength] at reaches ⊢
  by_cases noDigit : digitRun cs = 0
  · rw [if_pos noDigit] at reaches ⊢
    by_cases alone : pointLength cs = 1
    · exact absurd (if_pos alone) reaches
    · rw [if_neg alone] at reaches ⊢
      obtain ⟨rest, length, taken⟩ := exists_point reaches
      rw [taken]
      exact .fraction (isDigits_take fun none => alone (by rw [length, none]))
  · rw [if_neg noDigit, List.take_add]
    by_cases noPoint : pointLength (cs.drop (digitRun cs)) = 0
    · rw [noPoint, List.take_zero, List.append_nil]
      exact .whole (isDigits_take noDigit)
    · obtain ⟨rest, -, taken⟩ := exists_point noPoint
      rw [taken]
      exact .point (isDigits_take noDigit) (all_take_digitRun rest)

theorem exponentLength_cons (letter : Char) (cs : List Char) : exponentLength (letter :: cs) =
    if isExponentLetter letter then if signedDigitRun cs = 0 then 0 else signedDigitRun cs + 1
    else 0 :=
  rfl

theorem signedDigitRun_cons (sign : Char) (cs : List Char) : signedDigitRun (sign :: cs) =
    if isSign sign then if digitRun cs = 0 then 0 else digitRun cs + 1 else digitRun (sign :: cs) :=
  rfl

theorem isExponent_take {cs : List Char} (reaches : exponentLength cs ≠ 0) :
    IsExponent (cs.take (exponentLength cs)) := by
  cases cs with
  | nil => exact absurd rfl reaches
  | cons letter cs =>
      rw [exponentLength_cons] at reaches ⊢
      by_cases isLetter : isExponentLetter letter
      · rw [if_pos isLetter] at reaches ⊢
        by_cases none : signedDigitRun cs = 0
        · exact absurd (if_pos none) reaches
        · rw [if_neg none, List.take_succ_cons]
          cases cs with
          | nil => exact absurd rfl none
          | cons sign cs =>
              rw [signedDigitRun_cons] at none ⊢
              by_cases signed : isSign sign
              · rw [if_pos signed] at none ⊢
                by_cases noDigit : digitRun cs = 0
                · exact absurd (if_pos noDigit) none
                · rw [if_neg noDigit, List.take_succ_cons]
                  exact .signed isLetter signed (isDigits_take noDigit)
              · rw [if_neg signed] at none ⊢
                exact .plain isLetter (isDigits_take none)
      · exact absurd (if_neg isLetter) reaches

/-- **The cut takes numbers.** -/
theorem isNumber_take {cs : List Char} (reaches : numberLength cs ≠ 0) :
    IsNumber (cs.take (numberLength cs)) := by
  rw [numberLength] at reaches ⊢
  by_cases none : mantissaLength cs = 0
  · rw [if_pos none] at reaches
    exact absurd rfl reaches
  · rw [if_neg none, List.take_add]
    by_cases plain : exponentLength (cs.drop (mantissaLength cs)) = 0
    · rw [plain, List.take_zero, List.append_nil]
      exact .plain (isMantissa_take none)
    · exact .scaled (isMantissa_take none) (isExponent_take plain)

/-- **Number tokens are numbers.** -/
theorem isNumber_of_mem_tokens {expression : String} {token : Token}
    (member : token ∈ tokens expression) (isNumber : token.kind = .number) : IsNumber token.chars := by
  have cut : token.CutAs IsNumber (fun _ => True) fun _ => True :=
    cutAs_of_mem_tokensFrom (fun _ _ reaches => isNumber_take reaches) (fun _ _ _ => trivial)
      (fun _ _ _ _ => trivial) token member
  rw [Token.CutAs, isNumber] at cut
  exact cut

end ForeignGlue.Expression
