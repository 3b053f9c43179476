/-
**The cut of an expression, said without cutting.**

The tokens of an expression are found from left to right, by how far a number or a name reaches. Which
tokens these are can be said of the finished list alone: every number and every name is the longest at
its place, and what stands between them holds no place where one of them could start.

* `isLongest_number`, `isLongest_name`: what is cut off is the longest number, or name, at its place;
* `startsToken_iff`: the places where one is cut off;
* `IsMaximalMunch`: a list of tokens that is cut as far as possible;
* `isMaximalMunch_tokensFrom`, `eq_tokensFrom`: the tokens of a text are such a list, and the only one.
-/

import ForeignGlue.Proofs.Expression.Exact
import ForeignGlue.Proofs.Expression.Numbers
import ForeignGlue.Proofs.ScalarIndex.Lookup

namespace ForeignGlue.Expression

open ForeignGlue.Text

/-! ### The longest start of a form -/

/-- **The longest start** of a text that has a form. -/
structure IsLongest (form : List Char → Prop) (start cs : List Char) : Prop where
  starts : start <+: cs
  hasForm : form start
  longest : ∀ other, other <+: cs → form other → other.length ≤ start.length

/-- There is one longest start. -/
theorem IsLongest.eq {form : List Char → Prop} {start other cs : List Char}
    (first : IsLongest form start cs) (second : IsLongest form other cs) : start = other := by
  have shorter := second.longest start first.starts first.hasForm
  have longer := first.longest other second.starts second.hasForm
  exact (List.prefix_of_prefix_length_le first.starts second.starts shorter).eq_of_length_le longer

/-- What is longest, with the rest of the text after it. -/
theorem IsLongest.exists_rest {form : List Char → Prop} {start cs : List Char}
    (isLongest : IsLongest form start cs) :
    ∃ rest, start ++ rest = cs ∧ IsLongest form start (start ++ rest) := by
  obtain ⟨rest, rfl⟩ := isLongest.starts
  exact ⟨rest, rfl, isLongest⟩

/-- What is longest ends where the rest of the text starts. -/
theorem IsLongest.take_drop {form : List Char → Prop} {start rest : List Char} {length : Nat}
    (isLongest : IsLongest form start (start ++ rest))
    (taken : IsLongest form ((start ++ rest).take length) (start ++ rest)) :
    (start ++ rest).take length = start ∧ (start ++ rest).drop length = rest := by
  have same := taken.eq isLongest
  refine ⟨same, ?_⟩
  have whole := List.take_append_drop length (start ++ rest)
  rw [same] at whole
  exact List.append_cancel_left whole

/-! ### Numbers -/

variable {digits mantissa exponent rest : List Char}

/-- A run of digits in front of a text. -/
theorem digitRun_append (decimal : digits.all isDecimalDigit) (rest : List Char) :
    digitRun (digits ++ rest) = digits.length + digitRun rest := by
  rw [digitRun, List.takeWhile_append_of_pos (List.all_eq_true.mp decimal), List.length_append]
  rfl

theorem digitRun_cons_of_not {c : Char} (other : isDecimalDigit c = false) (cs : List Char) :
    digitRun (c :: cs) = 0 := by
  rw [digitRun, List.takeWhile_cons_of_neg (by simp [other])]
  rfl

theorem digitRun_ne_zero_iff {cs : List Char} :
    digitRun cs ≠ 0 ↔ ∃ d ∈ cs.head?, isDecimalDigit d := by
  cases cs with
  | nil => simp [digitRun]
  | cons c cs =>
      by_cases digit : isDecimalDigit c
      · simp [digitRun, digit]
      · simp [digitRun_cons_of_not (Bool.not_eq_true _ ▸ digit), digit]

theorem IsDigits.length_ne_zero (isDigits : IsDigits digits) : digits.length ≠ 0 :=
  fun none => isDigits.1 (List.length_eq_zero_iff.mp none)

/-- A mantissa goes on with digits, and with a point if it has none. -/
theorem mantissaLength_append (isMantissa : IsMantissa mantissa) (rest : List Char) :
    mantissaLength (mantissa ++ rest) = mantissa.length + digitRun rest ∨
      mantissaLength (mantissa ++ rest) =
        mantissa.length + digitRun rest + pointLength (rest.drop (digitRun rest)) := by
  have noDigit : isDecimalDigit '.' = false := by decide
  cases isMantissa with
  | whole isDigits =>
      have run := digitRun_append isDigits.2 rest
      have written := isDigits.length_ne_zero
      right
      rw [mantissaLength, if_neg (by omega), run, List.drop_length_add_append]
  | @point digits fraction isDigits isFraction =>
      have run := digitRun_append isDigits.2 ('.' :: (fraction ++ rest))
      rw [digitRun_cons_of_not noDigit, Nat.add_zero] at run
      have written := isDigits.length_ne_zero
      left
      rw [List.append_assoc, List.cons_append, mantissaLength, if_neg (by omega), run,
        List.drop_left, pointLength, if_pos (by decide), digitRun_append isFraction,
        List.length_append, List.length_cons]
      omega
  | @fraction digits isDigits =>
      have written := isDigits.length_ne_zero
      have point : pointLength ('.' :: (digits ++ rest)) = digits.length + digitRun rest + 1 := by
        rw [pointLength, if_pos (by decide), digitRun_append isDigits.2]
      left
      rw [List.cons_append, mantissaLength, if_pos (digitRun_cons_of_not noDigit _), point,
        if_neg (by omega), List.length_cons]
      omega

/-- An exponent is taken whole. -/
theorem length_le_exponentLength (isExponent : IsExponent exponent) (rest : List Char) :
    exponent.length ≤ exponentLength (exponent ++ rest) := by
  cases isExponent with
  | @plain letter digits isLetter isDigits =>
      obtain ⟨first, more, rfl⟩ := List.exists_cons_of_ne_nil isDigits.1
      have run := digitRun_append isDigits.2 rest
      have unsigned : isSign first = false := by
        have digit : isDecimalDigit first := List.all_eq_true.mp isDigits.2 first List.mem_cons_self
        rw [← Bool.not_eq_true]
        intro signed
        rcases (show first = '+' ∨ first = '-' by simpa [isSign] using signed) with rfl | rfl
        · exact absurd digit (by decide)
        · exact absurd digit (by decide)
      have signedRun : signedDigitRun (first :: more ++ rest) = (first :: more).length + digitRun rest := by
        rw [List.cons_append, signedDigitRun_cons, unsigned]
        exact run
      rw [List.cons_append, exponentLength_cons, if_pos isLetter, signedRun, List.length_cons,
        List.length_cons, if_neg (by omega)]
      omega
  | @signed letter sign digits isLetter isSign isDigits =>
      have run := digitRun_append isDigits.2 rest
      have written := isDigits.length_ne_zero
      have signedRun : signedDigitRun (sign :: (digits ++ rest)) = digits.length + digitRun rest + 1 := by
        rw [signedDigitRun_cons, if_pos isSign, run, if_neg (by omega)]
      rw [List.cons_append, List.cons_append, exponentLength_cons, if_pos isLetter, signedRun,
        if_neg (by omega), List.length_cons, List.length_cons]
      omega

theorem IsMantissa.length_ne_zero (isMantissa : IsMantissa mantissa) : mantissa.length ≠ 0 := by
  cases isMantissa with
  | whole isDigits => exact isDigits.length_ne_zero
  | point isDigits _ => simp
  | fraction isDigits => simp

/-- The letter of an exponent ends the mantissa before it. -/
theorem mantissaLength_before_exponent (isMantissa : IsMantissa mantissa)
    (isExponent : IsExponent exponent) (rest : List Char) :
    mantissaLength (mantissa ++ (exponent ++ rest)) = mantissa.length := by
  obtain ⟨letter, more, rfl, isLetter⟩ :
      ∃ letter more, exponent = letter :: more ∧ isExponentLetter letter := by
    cases isExponent with
    | plain isLetter _ => exact ⟨_, _, rfl, isLetter⟩
    | signed isLetter _ _ => exact ⟨_, _, rfl, isLetter⟩
  have noDigit : isDecimalDigit letter = false ∧ (letter == '.') = false := by
    simp only [isExponentLetter, Bool.or_eq_true, beq_iff_eq, or_assoc] at isLetter
    rcases isLetter with rfl | rfl | rfl | rfl <;> decide
  have noRun : digitRun (letter :: more ++ rest) = 0 := digitRun_cons_of_not noDigit.1 _
  have noPoint : pointLength (letter :: more ++ rest) = 0 := by
    rw [List.cons_append, pointLength, noDigit.2]
    rfl
  rcases mantissaLength_append isMantissa (letter :: more ++ rest) with reach | reach
  · rw [reach, noRun, Nat.add_zero]
  · rw [reach, noRun, List.drop_zero, noPoint]
    rfl

theorem IsNumber.ne_nil {number : List Char} (isNumber : IsNumber number) : number ≠ [] := by
  cases isNumber with
  | plain isMantissa => exact List.ne_nil_of_length_pos (Nat.pos_of_ne_zero isMantissa.length_ne_zero)
  | scaled isMantissa _ =>
      exact List.append_ne_nil_of_left_ne_nil
        (List.ne_nil_of_length_pos (Nat.pos_of_ne_zero isMantissa.length_ne_zero)) _

/-- No number at the start of a text is longer than the one that is cut off. -/
theorem length_le_numberLength {number : List Char} (isNumber : IsNumber number) (rest : List Char) :
    number.length ≤ numberLength (number ++ rest) := by
  cases isNumber with
  | plain isMantissa =>
      have written := isMantissa.length_ne_zero
      have reach : number.length ≤ mantissaLength (number ++ rest) := by
        rcases mantissaLength_append isMantissa rest with reach | reach <;> omega
      rw [numberLength, if_neg (by omega)]
      omega
  | @scaled mantissa exponent isMantissa isExponent =>
      have written := isMantissa.length_ne_zero
      have reach := mantissaLength_before_exponent isMantissa isExponent rest
      have scale := length_le_exponentLength isExponent rest
      rw [List.append_assoc, numberLength, reach, if_neg written, List.drop_left, List.length_append]
      omega

/-- **The number that is cut off** is the longest at its place. -/
theorem isLongest_number {cs : List Char} (reaches : numberLength cs ≠ 0) :
    IsLongest IsNumber (cs.take (numberLength cs)) cs where
  starts := List.take_prefix _ _
  hasForm := isNumber_take reaches
  longest := by
    rintro other ⟨rest, rfl⟩ isNumber
    have reach := length_le_numberLength isNumber rest
    rw [List.length_take, List.length_append]
    omega

/-! ### Names -/

/-- **The name that is cut off** is the longest at its place. -/
theorem isLongest_name {c : Char} {cs : List Char} (reaches : nameLength (c :: cs) ≠ 0) :
    IsLongest IsIdentifier ((c :: cs).take (nameLength (c :: cs))) (c :: cs) where
  starts := List.take_prefix _ _
  hasForm := isIdentifier_take reaches
  longest := by
    rintro _ ⟨rest, same⟩ ⟨d, ds, rfl, start, inside⟩
    rw [List.cons_append] at same
    obtain ⟨rfl, rfl⟩ := List.cons.inj same
    have run : (ds ++ rest).takeWhile isNameChar = ds ++ rest.takeWhile isNameChar :=
      List.takeWhile_append_of_pos (List.all_eq_true.mp inside)
    rw [nameLength, if_pos start, run, List.length_take, List.length_append, List.length_cons,
      List.length_cons, List.length_append]
    omega

theorem IsIdentifier.ne_nil {text : List Char} (isName : IsIdentifier text) : text ≠ [] := by
  obtain ⟨c, cs, rfl, -⟩ := isName
  exact List.cons_ne_nil c cs

/-- A name is found where its first character stands. -/
theorem nameLength_ne_zero_iff {c : Char} {cs : List Char} :
    nameLength (c :: cs) ≠ 0 ↔ isNameStart c := by
  rw [nameLength]
  split
  · next start => exact iff_of_true (Nat.succ_ne_zero _) start
  · next other => exact iff_of_false (not_not.mpr rfl) other

/-! ### Where a number or a name starts -/

/-- A digit, or a point before a digit. -/
def StartsNumber (c : Char) (cs : List Char) : Prop :=
  isDecimalDigit c ∨ c = '.' ∧ ∃ d ∈ cs.head?, isDecimalDigit d

/-- A number is found where a digit stands, or a point before a digit. -/
theorem numberLength_ne_zero_iff {c : Char} {cs : List Char} :
    numberLength (c :: cs) ≠ 0 ↔ StartsNumber c cs := by
  by_cases digit : isDecimalDigit c
  · exact iff_of_true (numberLength_ne_zero digit) (.inl digit)
  · have noRun := digitRun_cons_of_not (Bool.not_eq_true _ ▸ digit) cs
    have whole : numberLength (c :: cs) ≠ 0 ↔ mantissaLength (c :: cs) ≠ 0 := by
      rw [numberLength]
      split <;> omega
    rw [whole, mantissaLength, if_pos noRun, pointLength, StartsNumber, ← digitRun_ne_zero_iff]
    by_cases point : c = '.'
    · rw [if_pos (beq_iff_eq.mpr point)]
      simp [point, show isDecimalDigit '.' = false by decide]
    · simp [point, digit]

/-- A number or a name starts at a character, with `cs` after it. -/
def StartsToken (c : Char) (cs : List Char) : Prop :=
  isNameStart c ∨ StartsNumber c cs

theorem not_startsNumber_of_isNameStart {c : Char} {cs : List Char} (start : isNameStart c) :
    ¬ StartsNumber c cs := by
  rintro (digit | ⟨rfl, -⟩)
  · rw [not_isDecimalDigit_of_isNameStart start] at digit
    cases digit
  · exact absurd start (by decide)

/-- A token starts where a number or a name is found. -/
theorem startsToken_iff {c : Char} {cs : List Char} :
    StartsToken c cs ↔ numberLength (c :: cs) ≠ 0 ∨ nameLength (c :: cs) ≠ 0 := by
  rw [numberLength_ne_zero_iff, nameLength_ne_zero_iff, or_comm]
  rfl

/-! ### Cutting, token by token -/

variable {c : Char} {cs : List Char}

/-- The longest number is cut off. -/
theorem tokensFrom_number {chars rest : List Char} (isLongest : IsLongest IsNumber chars (chars ++ rest)) :
    tokensFrom 0 (chars ++ rest) = ⟨.number, chars⟩ :: tokensFrom 0 rest := by
  obtain ⟨c, more, rfl⟩ := List.exists_cons_of_ne_nil isLongest.hasForm.ne_nil
  have reach := length_le_numberLength isLongest.hasForm rest
  rw [List.cons_append, List.length_cons] at reach
  obtain ⟨length, isLength⟩ := Nat.exists_eq_succ_of_ne_zero (Nat.ne_zero_of_lt reach)
  obtain ⟨taken, dropped⟩ := isLongest.take_drop (isLongest_number (by rw [List.cons_append]; omega))
  rw [List.cons_append, isLength] at taken dropped
  rw [List.cons_append, tokensFrom, if_pos (by omega), tokensFrom_eq_drop, isLength, taken]
  exact congrArg (_ :: tokensFrom 0 ·) dropped

/-- The longest name is cut off. -/
theorem tokensFrom_name {chars rest : List Char}
    (isLongest : IsLongest IsIdentifier chars (chars ++ rest)) :
    tokensFrom 0 (chars ++ rest) = ⟨.name, chars⟩ :: tokensFrom 0 rest := by
  obtain ⟨c, more, rfl, start, -⟩ := isLongest.hasForm
  have reaches : nameLength (c :: (more ++ rest)) ≠ 0 := nameLength_ne_zero_iff.mpr start
  have noNumber : ¬ numberLength (c :: (more ++ rest)) ≠ 0 :=
    mt numberLength_ne_zero_iff.mp (not_startsNumber_of_isNameStart start)
  have cutOff := isLongest_name reaches
  obtain ⟨length, isLength⟩ := Nat.exists_eq_succ_of_ne_zero reaches
  rw [isLength] at cutOff
  obtain ⟨taken, dropped⟩ := isLongest.take_drop cutOff
  rw [List.cons_append] at taken dropped
  rw [List.cons_append, tokensFrom, if_neg noNumber, if_pos reaches, tokensFrom_eq_drop, isLength, taken]
  exact congrArg (_ :: tokensFrom 0 ·) dropped

/-- A character between tokens joins those behind it. -/
theorem tokensFrom_other (between : ¬ StartsToken c cs) :
    tokensFrom 0 (c :: cs) = consOther c (tokensFrom 0 cs) := by
  rw [startsToken_iff, not_or] at between
  rw [tokensFrom, if_neg between.1, if_neg between.2]

theorem consOther_of_head {tokens : List Token} (apart : ∀ next ∈ tokens.head?, next.kind ≠ .other)
    (c : Char) : consOther c tokens = ⟨.other, [c]⟩ :: tokens := by
  unfold consOther
  split
  · exact absurd rfl (apart _ rfl)
  · rfl

/-- Characters at none of which a token starts are one token, up to a number or a name. -/
theorem tokensFrom_between {chars rest : List Char} (filled : chars ≠ [])
    (between : ∀ before c after, chars = before ++ c :: after → ¬ StartsToken c (after ++ rest))
    (apart : ∀ next ∈ (tokensFrom 0 rest).head?, next.kind ≠ .other) :
    tokensFrom 0 (chars ++ rest) = ⟨.other, chars⟩ :: tokensFrom 0 rest := by
  induction chars with
  | nil => exact absurd rfl filled
  | cons c chars ih =>
      have here := tokensFrom_other (between [] c chars rfl)
      rw [List.cons_append, here]
      cases chars with
      | nil => exact consOther_of_head apart c
      | cons d chars =>
          have later : ∀ before e after, d :: chars = before ++ e :: after →
              ¬ StartsToken e (after ++ rest) := by
            intro before e after same
            exact between (c :: before) e after (congrArg (c :: ·) same)
          rw [ih (List.cons_ne_nil d chars) later]
          rfl

/-! ### Maximal munch -/

/-- What a token is in a text in which `rest` stands after it: a number and a name are the longest at
their place, and elsewhere no number and no name starts. -/
def Token.IsMaximal (rest : List Char) (token : Token) : Prop :=
  match token.kind with
  | .number => IsLongest IsNumber token.chars (token.chars ++ rest)
  | .name => IsLongest IsIdentifier token.chars (token.chars ++ rest)
  | .other => ∀ before c after, token.chars = before ++ c :: after → ¬ StartsToken c (after ++ rest)

theorem Token.isMaximal_nil {rest : List Char} : Token.IsMaximal rest ⟨.other, []⟩ :=
  fun _ _ _ same => absurd same (by simp)

/-- One more character between tokens. -/
theorem Token.IsMaximal.cons {chars rest : List Char} (isMaximal : Token.IsMaximal rest ⟨.other, chars⟩)
    (between : ¬ StartsToken c (chars ++ rest)) : Token.IsMaximal rest ⟨.other, c :: chars⟩ := by
  intro before d after same
  cases before with
  | nil =>
      obtain ⟨rfl, rfl⟩ := List.cons.inj same
      exact between
  | cons first before => exact isMaximal before d after (List.cons.inj same).2

/-- **The tokens of a text, cut as far as possible.** -/
structure IsMaximalMunch (cs : List Char) (tokens : List Token) : Prop where
  spells : tokens.flatMap Token.chars = cs
  filled : ∀ token ∈ tokens, token.chars ≠ []
  apart : tokens.IsChain fun token next => ¬ (token.kind = .other ∧ next.kind = .other)
  maximal : ∀ before token after, tokens = before ++ token :: after →
    token.IsMaximal (after.flatMap Token.chars)

namespace IsMaximalMunch

variable {token : Token} {tokens : List Token}

theorem nil : IsMaximalMunch [] [] where
  spells := rfl
  filled := List.forall_mem_nil _
  apart := List.isChain_nil
  maximal _ _ _ same := absurd same (by simp)

/-- One more token in front. -/
theorem cons {rest : List Char} (later : IsMaximalMunch rest tokens) (token : Token)
    (filled : token.chars ≠ []) (isMaximal : token.IsMaximal rest)
    (apart : ∀ next ∈ tokens.head?, ¬ (token.kind = .other ∧ next.kind = .other)) :
    IsMaximalMunch (token.chars ++ rest) (token :: tokens) where
  spells := by rw [List.flatMap_cons, later.spells]
  filled := List.forall_mem_cons.mpr ⟨filled, later.filled⟩
  apart := List.isChain_cons.mpr ⟨apart, later.apart⟩
  maximal before other after same := by
    cases before with
    | nil =>
        obtain ⟨rfl, rfl⟩ := List.cons.inj same
        rw [later.spells]
        exact isMaximal
    | cons first before => exact later.maximal before other after (List.cons.inj same).2

/-- What follows the first token. -/
theorem tail (munch : IsMaximalMunch cs (token :: tokens)) :
    IsMaximalMunch (tokens.flatMap Token.chars) tokens where
  spells := rfl
  filled := (List.forall_mem_cons.mp munch.filled).2
  apart := munch.apart.tail
  maximal before other after same :=
    munch.maximal (token :: before) other after (congrArg (token :: ·) same)

/-- One more character at which no token starts. -/
theorem consOther (munch : IsMaximalMunch cs tokens) (between : ¬ StartsToken c cs) :
    IsMaximalMunch (c :: cs) (Expression.consOther c tokens) := by
  -- it is a token by itself before a number or a name, and else the start of the token there
  by_cases head : ∀ next ∈ tokens.head?, next.kind ≠ .other
  · rw [consOther_of_head head]
    have single : Token.IsMaximal cs ⟨.other, [c]⟩ := Token.isMaximal_nil.cons between
    exact munch.cons _ (List.cons_ne_nil c []) single fun next first both => head next first both.2
  · cases tokens with
    | nil => exact absurd (by simp) head
    | cons token tokens =>
        obtain ⟨kind, chars⟩ := token
        obtain rfl : kind = .other := by simpa using head
        have whole : chars ++ tokens.flatMap Token.chars = cs := munch.spells
        have longer : Token.IsMaximal (tokens.flatMap Token.chars) ⟨.other, c :: chars⟩ :=
          Token.IsMaximal.cons (munch.maximal [] _ tokens rfl) (whole ▸ between)
        rw [← whole]
        exact munch.tail.cons _ (List.cons_ne_nil c chars) longer (List.isChain_cons.mp munch.apart).1

end IsMaximalMunch

/-- **The tokens of a text** are cut as far as possible. -/
theorem isMaximalMunch_tokensFrom (cs : List Char) : IsMaximalMunch cs (tokensFrom 0 cs) := by
  induction size : cs.length using Nat.strongRecOn generalizing cs with
  | ind n ih =>
      cases cs with
      | nil => exact .nil
      | cons c cs =>
          have later {chars rest : List Char} (filled : chars ≠ []) (whole : chars ++ rest = c :: cs) :
              IsMaximalMunch rest (tokensFrom 0 rest) := by
            have positive := List.length_pos_iff.mpr filled
            have lengths := congrArg List.length whole
            rw [List.length_append, size] at lengths
            exact ih _ (by omega) rest rfl
          by_cases starts : StartsToken c cs
          · rcases startsToken_iff.mp starts with reaches | reaches
            · obtain ⟨rest, whole, isLongest⟩ := (isLongest_number reaches).exists_rest
              have filled := isLongest.hasForm.ne_nil
              rw [← whole, tokensFrom_number isLongest]
              refine (later filled whole).cons ⟨.number, _⟩ filled isLongest fun _ _ both => ?_
              exact Kind.noConfusion both.1
            · obtain ⟨rest, whole, isLongest⟩ := (isLongest_name reaches).exists_rest
              have filled := isLongest.hasForm.ne_nil
              rw [← whole, tokensFrom_name isLongest]
              refine (later filled whole).cons ⟨.name, _⟩ filled isLongest fun _ _ both => ?_
              exact Kind.noConfusion both.1
          · rw [tokensFrom_other starts]
            exact (later (List.cons_ne_nil c []) rfl).consOther starts

/-- **No other list of tokens** is cut as far as possible. -/
theorem eq_tokensFrom {cs : List Char} {tokens : List Token} (munch : IsMaximalMunch cs tokens) :
    tokens = tokensFrom 0 cs := by
  induction tokens generalizing cs with
  | nil =>
      obtain rfl : [] = cs := munch.spells
      rfl
  | cons token tokens ih =>
      have isMaximal := munch.maximal [] token tokens rfl
      have later := ih munch.tail
      rw [← munch.spells, List.flatMap_cons]
      obtain ⟨kind, chars⟩ := token
      cases kind with
      | number => rw [tokensFrom_number isMaximal, ← later]
      | name => rw [tokensFrom_name isMaximal, ← later]
      | other =>
          have filled := munch.filled _ List.mem_cons_self
          have apart := (List.isChain_cons.mp munch.apart).1
          rw [later] at apart
          rw [tokensFrom_between filled isMaximal fun next first other => apart next first ⟨rfl, other⟩,
            ← later]

/-- **The tokens of an expression are its one cut into longest pieces**: their texts give back the
expression, none is empty, no two tokens that are neither numbers nor names are neighbours, every number
and every name is the longest at its place, and nowhere else does a number or a name start. Only the
tokens of the expression are so. -/
theorem isMaximalMunch_iff_eq_tokens (expression : String) (candidate : List Token) :
    IsMaximalMunch expression.toList candidate ↔ candidate = tokens expression := by
  constructor
  · exact eq_tokensFrom
  · rintro rfl
    exact isMaximalMunch_tokensFrom expression.toList

/-- A second exponent is a name, and a point without a digit after it is part of no number. -/
example : (tokens "1.5d0e3.x").map Token.text = ["1.5d0", "e3", ".", "x"] := by decide

end ForeignGlue.Expression
