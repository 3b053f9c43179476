/-
**What a line break can cut.**

A line is broken before a character that is no word character. Names have only word characters, so no
name is cut. A number may have a point, and a sign in its exponent, which are none: a line can be
broken right before these. `breakLine_cuts_iff` says that nothing else is cut.

* `splitsNumber_of_mayStartLine`: the places inside a number where a line may start.
* `BrokenInto.mayStartLine_of_break`: a break is where a line may start.
* `FallsInside`: a place of a text inside one of its tokens.
-/

import ForeignGlue.Proofs.CSource.Bounds
import ForeignGlue.Proofs.Expression.Numbers
import ForeignGlue.Proofs.Source.FewestLines

namespace ForeignGlue.Source

open ForeignGlue.Expression
open ForeignGlue.Text

/-! ### Places inside a number -/

/-- A number that is taken apart before its point, or before the sign of its exponent. -/
inductive SplitsNumber : List Char → List Char → Prop
  | point {digits fraction : List Char} (isDigits : IsDigits digits) :
      SplitsNumber digits ('.' :: fraction)
  | sign {before digits : List Char} {letter sign : Char} (isLetter : isExponentLetter letter)
      (isSign : isSign sign) : SplitsNumber (before ++ [letter]) (sign :: digits)

theorem SplitsNumber.exists_cons {left right : List Char} (splits : SplitsNumber left right) :
    ∃ c rest, right = c :: rest ∧ isWordChar c = false := by
  cases splits with
  | point _ => exact ⟨_, _, rfl, by decide⟩
  | @sign _ _ _ sign _ signed =>
      refine ⟨_, _, rfl, ?_⟩
      rcases (show sign = '+' ∨ sign = '-' by simpa [isSign] using signed) with rfl | rfl
      · decide
      · decide

/-- A digit is part of a word: in ASCII only the first block has digits, and beyond ASCII all characters
are. -/
theorem isWordChar_of_isDecimalDigit {c : Char} (digit : isDecimalDigit c) : isWordChar c := by
  have zeros : ∀ first ∈ decimalZeros, first = 0x30 ∨ 0x660 ≤ first := by decide
  obtain ⟨first, listed, inBlock⟩ := List.any_eq_true.mp digit
  simp only [Bool.and_eq_true, decide_eq_true_eq] at inBlock
  rw [isWordChar, Bool.or_eq_true]
  rcases zeros first listed with rfl | large
  · exact .inl (isNameChar_of_isDigit ((isDigit_iff c).mpr (by omega)))
  · refine .inr ?_
    rw [isAscii, decide_eq_false (by omega)]
    rfl

theorem isWordChar_of_isExponentLetter {c : Char} (isLetter : isExponentLetter c) : isWordChar c := by
  simp only [isExponentLetter, Bool.or_eq_true, beq_iff_eq, or_assoc] at isLetter
  rcases isLetter with rfl | rfl | rfl | rfl <;> decide

variable {left rest : List Char} {c : Char}

/-- Digits hold no character that is no word character. -/
theorem not_all_isDecimalDigit (noWord : isWordChar c = false) :
    ¬ (left ++ c :: rest).all isDecimalDigit := by
  intro digits
  have digit := List.all_eq_true.mp digits c (by simp)
  rw [isWordChar_of_isDecimalDigit digit] at noWord
  cases noWord

theorem eq_point_of_isMantissa (isMantissa : IsMantissa (left ++ c :: rest)) (filled : left ≠ [])
    (noWord : isWordChar c = false) : c = '.' ∧ IsDigits left := by
  generalize isWhole : left ++ c :: rest = whole at isMantissa
  cases isMantissa with
  | whole isDigits =>
      rw [← isWhole] at isDigits
      exact absurd isDigits.2 (not_all_isDecimalDigit noWord)
  | @point digits fraction isDigits isFraction =>
      rcases List.append_eq_append_iff.mp isWhole with ⟨before, rfl, split⟩ | ⟨behind, rfl, split⟩
      · cases before with
        | nil =>
            rw [List.append_nil] at isDigits
            exact ⟨(List.cons.inj split).1, isDigits⟩
        | cons d before =>
            obtain ⟨rfl, -⟩ := List.cons.inj split
            exact absurd isDigits.2 (not_all_isDecimalDigit noWord)
      · cases behind with
        | nil =>
            rw [List.append_nil]
            exact ⟨(List.cons.inj split).1.symm, isDigits⟩
        | cons d behind =>
            obtain ⟨-, rfl⟩ := List.cons.inj split
            exact absurd isFraction (not_all_isDecimalDigit noWord)
  | fraction isDigits =>
      cases left with
      | nil => exact absurd rfl filled
      | cons d left =>
          obtain ⟨-, rfl⟩ := List.cons.inj isWhole
          exact absurd isDigits.2 (not_all_isDecimalDigit noWord)

theorem splitsNumber_of_isExponent {mantissa : List Char} (isExponent : IsExponent (left ++ c :: rest))
    (noWord : isWordChar c = false) : SplitsNumber (mantissa ++ left) (c :: rest) := by
  have notLetter {letter : Char} (isLetter : isExponentLetter letter) : letter ≠ c := by
    rintro rfl
    rw [isWordChar_of_isExponentLetter isLetter] at noWord
    cases noWord
  generalize isWhole : left ++ c :: rest = whole at isExponent
  cases isExponent with
  | plain isLetter isDigits =>
      cases left with
      | nil => exact absurd (List.cons.inj isWhole).1.symm (notLetter isLetter)
      | cons d left =>
          obtain ⟨-, rfl⟩ := List.cons.inj isWhole
          exact absurd isDigits.2 (not_all_isDecimalDigit noWord)
  | signed isLetter isSign isDigits =>
      cases left with
      | nil => exact absurd (List.cons.inj isWhole).1.symm (notLetter isLetter)
      | cons d left =>
          obtain ⟨rfl, behind⟩ := List.cons.inj isWhole
          cases left with
          | nil =>
              obtain ⟨rfl, rfl⟩ := List.cons.inj behind
              exact .sign isLetter isSign
          | cons e left =>
              obtain ⟨-, rfl⟩ := List.cons.inj behind
              exact absurd isDigits.2 (not_all_isDecimalDigit noWord)

/-- **The places inside a number where a line may start**: before its point, and before the sign of its
exponent. -/
theorem splitsNumber_of_mayStartLine {right : List Char} (isNumber : IsNumber (left ++ right))
    (filled : left ≠ []) (starts : mayStartLine right) : SplitsNumber left right := by
  cases right with
  | nil => cases starts
  | cons c rest =>
      have noWord : isWordChar c = false := by simpa [mayStartLine] using starts
      have inMantissa {behind : List Char} (isMantissa : IsMantissa (left ++ c :: behind)) :
          SplitsNumber left (c :: rest) := by
        obtain ⟨rfl, isDigits⟩ := eq_point_of_isMantissa isMantissa filled noWord
        exact .point isDigits
      generalize isWhole : left ++ c :: rest = whole at isNumber
      cases isNumber with
      | plain isMantissa =>
          rw [← isWhole] at isMantissa
          exact inMantissa isMantissa
      | @scaled mantissa exponent isMantissa isExponent =>
          rcases List.append_eq_append_iff.mp isWhole with ⟨behind, rfl, split⟩ | ⟨before, rfl, rfl⟩
          · cases behind with
            | cons d behind =>
                obtain ⟨rfl, -⟩ := List.cons.inj split
                exact inMantissa isMantissa
            | nil =>
                rw [List.nil_append] at split
                rw [← split, ← List.nil_append (c :: rest)] at isExponent
                rw [← List.append_nil left]
                exact splitsNumber_of_isExponent isExponent noWord
          · exact splitsNumber_of_isExponent isExponent noWord

/-! ### Breaks and tokens -/

/-- A break comes after `head`: the lines before it spell `head`, and there are lines after it. -/
def BreaksAfter (lines : List (List Char)) (head : List Char) : Prop :=
  ∃ early late, lines = early ++ late ∧ early ≠ [] ∧ late ≠ [] ∧ head = early.flatten

/-- **A place inside a token**: after `head`, which ends with some of the token's characters but not
with all. -/
structure FallsInside (tokens : List Token) (head : List Char) (token : Token)
    (left right : List Char) : Prop where
  split : ∃ before after, tokens = before ++ token :: after ∧
    head = before.flatMap Token.chars ++ left
  chars : token.chars = left ++ right
  left_ne_nil : left ≠ []
  right_ne_nil : right ≠ []

/-- Some break falls inside a number or a name. -/
def CutsToken (lines : List (List Char)) (text : String) : Prop :=
  ∃ head token left right, BreaksAfter lines head ∧
    FallsInside (tokens text) head token left right ∧ token.kind ≠ .other

/-- Some break falls inside a number, before its point or before the sign of its exponent. -/
def CutsNumber (lines : List (List Char)) (text : String) : Prop :=
  ∃ head token left right, BreaksAfter lines head ∧
    FallsInside (tokens text) head token left right ∧ token.kind = .number ∧ SplitsNumber left right

/-- A break is where a line may start. -/
theorem BrokenInto.mayStartLine_of_break {dialect : Dialect} {room : Nat} {cs head : List Char}
    {lines : List (List Char)} (broken : BrokenInto dialect room cs lines)
    (isBreak : BreaksAfter lines head) : ∃ rest, cs = head ++ rest ∧ mayStartLine rest := by
  obtain ⟨early, late, rfl, earlyFilled, lateFilled, rfl⟩ := isBreak
  generalize isAll : early ++ late = all at broken
  induction broken generalizing early with
  | last fits =>
      cases early with
      | nil => exact absurd rfl earlyFilled
      | cons line early =>
          obtain ⟨-, none⟩ := List.cons.inj isAll
          exact absurd (List.append_eq_nil_iff.mp none).2 lateFilled
  | @more room line rest lines _ _ starts later ih =>
      cases early with
      | nil => exact absurd rfl earlyFilled
      | cons first early =>
          obtain ⟨rfl, others⟩ := List.cons.inj isAll
          cases early with
          | nil => exact ⟨rest, by simp, starts⟩
          | cons next early =>
              obtain ⟨behind, split, startsBehind⟩ := ih (next :: early) (List.cons_ne_nil _ _) others
              exact ⟨behind, by simp [split], startsBehind⟩

theorem FallsInside.mem {tokens : List Token} {head left right : List Char} {token : Token}
    (inside : FallsInside tokens head token left right) : token ∈ tokens := by
  obtain ⟨before, after, rfl, -⟩ := inside.split
  exact List.mem_append_right _ List.mem_cons_self

/-- What stands after a place inside a token starts with the rest of the token. -/
theorem FallsInside.mayStartLine_right {text : String} {head rest : List Char} {token : Token}
    {left right : List Char} (inside : FallsInside (tokens text) head token left right)
    (whole : text.toList = head ++ rest) (starts : mayStartLine rest) : mayStartLine right := by
  obtain ⟨before, after, isTokens, rfl⟩ := inside.split
  have spelled : (tokens text).flatMap Token.chars = text.toList := flatMap_tokensFrom text.toList
  rw [isTokens, List.flatMap_append, List.flatMap_cons, inside.chars, whole, List.append_assoc,
    List.append_assoc] at spelled
  have isRest := List.append_cancel_left (List.append_cancel_left spelled)
  rw [← isRest] at starts
  cases right with
  | nil => exact absurd rfl inside.right_ne_nil
  | cons c right => exact starts

/-- **What a break can cut**: other than blanks and operators, only numbers, before their point or
before the sign of their exponent. -/
theorem kind_of_fallsInside {dialect : Dialect} {room : Nat} {text : String}
    {lines : List (List Char)} {head left right : List Char} {token : Token}
    (broken : BrokenInto dialect room text.toList lines) (isBreak : BreaksAfter lines head)
    (inside : FallsInside (tokens text) head token left right) :
    token.kind = .other ∨ token.kind = .number ∧ SplitsNumber left right := by
  obtain ⟨rest, whole, starts⟩ := broken.mayStartLine_of_break isBreak
  have startsRight := inside.mayStartLine_right whole starts
  cases kind : token.kind with
  | other => exact .inl rfl
  | number =>
      have isNumber := isNumber_of_mem_tokens inside.mem kind
      rw [inside.chars] at isNumber
      exact .inr ⟨rfl, splitsNumber_of_mayStartLine isNumber inside.left_ne_nil startsRight⟩
  | name =>
      have wellFormed := wellFormed_of_mem_tokensFrom inside.mem
      rw [Token.WellFormed, kind, inside.chars] at wellFormed
      have nameChars := List.all_eq_true.mp (all_isNameChar_of_isIdentifier wellFormed)
      cases right with
      | nil => cases startsRight
      | cons c right =>
          have nameChar := nameChars c (by simp)
          simp [mayStartLine, isWordChar, nameChar] at startsRight

/-- **Which statements are cut inside a number or a name**: those that are broken before the point of
a number or before the sign of its exponent. No name is ever cut, and no number that has neither
behind its first character. -/
theorem breakLine_cuts_iff {dialect : Dialect} {text broken : String}
    (done : breakLine dialect text = .ok broken) :
    ∃ lines, linesOf dialect dialect.lineLimit text.toList = some lines ∧
      broken = String.ofList ((continuationMark dialect).intercalate lines) ∧
      (CutsToken lines text ↔ CutsNumber lines text) ∧
      ((∀ token ∈ tokens text, token.kind = .number → token.chars.tail.all isWordChar) →
        ¬ CutsToken lines text) := by
  unfold breakLine at done
  cases found : linesOf dialect dialect.lineLimit text.toList with
  | none =>
      rw [found] at done
      cases done
  | some lines =>
      rw [found] at done
      have isBroken := brokenInto_of_linesOf found
      have cuts : CutsToken lines text ↔ CutsNumber lines text := by
        constructor
        · rintro ⟨head, token, left, right, isBreak, inside, notOther⟩
          have isNumber := (kind_of_fallsInside isBroken isBreak inside).resolve_left notOther
          exact ⟨head, token, left, right, isBreak, inside, isNumber⟩
        · rintro ⟨head, token, left, right, isBreak, inside, isNumber, -⟩
          exact ⟨head, token, left, right, isBreak, inside, by rw [isNumber]; decide⟩
      refine ⟨lines, rfl, (Except.ok.inj done).symm, cuts, fun plain cut => ?_⟩
      obtain ⟨head, token, left, right, isBreak, inside, isNumber, splits⟩ := cuts.mp cut
      obtain ⟨c, rest, rfl, noWord⟩ := splits.exists_cons
      have behindFirst : c ∈ token.chars.tail := by
        rw [inside.chars, List.tail_append_of_ne_nil inside.left_ne_nil]
        simp
      have wordChar := List.all_eq_true.mp (plain token inside.mem isNumber) c behindFirst
      rw [noWord] at wordChar
      cases wordChar

/-- Two lines, computed from the one place where they are cut. -/
theorem linesOf_of_two_lines {dialect : Dialect} {room : Nat} {cs line rest : List Char}
    (tooLong : ¬ byteSize cs ≤ room) (cut : lastCut (continuedRoom dialect room) cs = some (line, rest))
    (fits : byteSize rest ≤ continuationRoom dialect) :
    linesOf dialect room cs = some [line, rest] := by
  rw [linesOf_of_lastCut tooLong cut, linesOf, if_pos fits]
  rfl

/-- The start of a call whose first argument fills most of the line. -/
def wideStart : List Char :=
  'c' :: 'a' :: 'l' :: 'l' :: ' ' :: 'f' :: '(' :: List.replicate 121 'a'

/-- A call with a number, which takes two lines. -/
def wideCall (number : List Char) : String :=
  String.ofList (wideStart ++ ',' :: number ++ [')'])

theorem toList_wideCall (number : List Char) :
    (wideCall number).toList = wideStart ++ ',' :: number ++ [')'] :=
  String.toList_ofList

/-- The call with a whole number, which is broken before the comma. -/
def wholeCall : String := wideCall ['1', '5', '0', '0', '0', '0']

theorem breakLine_cuts_iff_wholeCall :
    breakLine .free wholeCall =
      .ok (String.ofList (wideStart ++ ['&', '\n', ',', '1', '5', '0', '0', '0', '0', ')'])) ∧
    ∃ lines, linesOf .free 132 wholeCall.toList = some lines ∧
      ¬ CutsToken lines wholeCall := by
  have found : linesOf .free 132 wholeCall.toList =
      some [wideStart, [',', '1', '5', '0', '0', '0', '0', ')']] := by
    rw [wholeCall, toList_wideCall]
    exact linesOf_of_two_lines (by decide +kernel) (by decide +kernel) (by decide)
  have done : breakLine .free wholeCall = _ := breakLine_of_linesOf found
  obtain ⟨lines, isLines, -, -, uncut⟩ := breakLine_cuts_iff done
  refine ⟨done, lines, isLines, uncut ?_⟩
  rw [tokens, wholeCall, toList_wideCall]
  decide +kernel

/-- The call with a number that has a point, which is broken before the point. -/
def realCall : String := wideCall ['1', '.', '5', '0', '0', '0']

/-- **A number that is cut in half.** -/
theorem number_cut_in_half :
    breakLine .free realCall =
      .ok (String.ofList (wideStart ++ [',', '1', '&', '\n', '.', '5', '0', '0', '0', ')'])) ∧
    ∃ lines, linesOf .free 132 realCall.toList = some lines ∧
      CutsToken lines realCall := by
  have found : linesOf .free 132 realCall.toList =
      some [wideStart ++ [',', '1'], ['.', '5', '0', '0', '0', ')']] := by
    rw [realCall, toList_wideCall]
    exact linesOf_of_two_lines (by decide +kernel) (by decide +kernel) (by decide)
  have inside : FallsInside (tokens realCall)
      (wideStart ++ [',', '1']) ⟨.number, ['1', '.', '5', '0', '0', '0']⟩ ['1']
      ['.', '5', '0', '0', '0'] :=
    { split := by
        rw [tokens, realCall, toList_wideCall]
        exact ⟨[⟨.name, ['c', 'a', 'l', 'l']⟩, ⟨.other, [' ']⟩, ⟨.name, ['f']⟩, ⟨.other, ['(']⟩,
          ⟨.name, List.replicate 121 'a'⟩, ⟨.other, [',']⟩], [⟨.other, [')']⟩],
          by decide +kernel, rfl⟩
      chars := rfl
      left_ne_nil := by decide
      right_ne_nil := by decide }
  have done : breakLine .free realCall = _ := breakLine_of_linesOf found
  exact ⟨done, _, found, _, _, _, _, ⟨[_], [_], rfl, by simp, by simp, by simp⟩, inside, by decide⟩

end ForeignGlue.Source
