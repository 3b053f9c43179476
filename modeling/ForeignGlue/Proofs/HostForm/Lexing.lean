/-
**How C cuts the host form of a bound.**

A slot reference starts with `*` and is put between characters that are copied as they are. C cuts
the result at the marks of the bound exactly if

* no sign stands directly after an equal one, since `++` and `--` are tokens,
* no `/` stands directly before a name, since `/` and the `*` of the reference open a comment,
* every blank is white space of C.

Such a bound is `Spliceable`. `lex_hostChars` gives the tokens of its host form; `lex_unspliceable`
says that the host form of any other bound that the evaluator takes has no tokens at all, or one of
two signs.
-/

import ForeignGlue.Proofs.CExpression.Grammar
import ForeignGlue.Proofs.HostForm.Marks

namespace ForeignGlue

open ForeignGlue.CExpression
open ForeignGlue.Expression
open ForeignGlue.Text

/-! ### Spliceable bounds -/

/-- Whether two characters of a bound may stand side by side. -/
def apart (first second : Char) : Bool :=
  !((first == '+' && second == '+') || (first == '-' && second == '-') ||
    (first == '/' && isNameStart second))

/-- Characters between which references can be put without C cutting them otherwise. -/
def SpliceableChars (cs : List Char) : Prop :=
  (cs.IsChain fun first second => apart first second) ∧ ∀ c ∈ cs, isBlank c → isCSpace c

instance (cs : List Char) : Decidable (SpliceableChars cs) :=
  @instDecidableAnd _ _ inferInstance (List.decidableBAll _ cs)

/-- **A bound whose names can be replaced by slot references** without C cutting it otherwise. -/
def Spliceable (expression : String) : Prop :=
  SpliceableChars expression.toList

instance (expression : String) : Decidable (Spliceable expression) :=
  inferInstanceAs (Decidable (SpliceableChars _))

theorem spliceableChars_append {cs ds : List Char} :
    SpliceableChars (cs ++ ds) ↔ SpliceableChars cs ∧ SpliceableChars ds ∧
      ∀ first ∈ cs.getLast?, ∀ second ∈ ds.head?, apart first second := by
  unfold SpliceableChars
  rw [List.isChain_append]
  simp only [List.mem_append, or_imp, forall_and]
  tauto

/-- Names and numbers are spliceable in themselves. -/
theorem spliceableChars_of_nameChars {cs : List Char} (inside : cs.all isNameChar) :
    SpliceableChars cs := by
  rw [List.all_eq_true] at inside
  refine ⟨?_, fun c member blank => ?_⟩
  · induction cs with
    | nil => exact List.isChain_nil
    | cons c cs ih =>
        refine List.isChain_cons.mpr ⟨fun d _ => ?_, ih fun d member => inside d
          (List.mem_cons_of_mem _ member)⟩
        have nameChar := inside c List.mem_cons_self
        have noOperator : c ≠ '+' ∧ c ≠ '-' ∧ c ≠ '/' := by
          refine ⟨?_, ?_, ?_⟩ <;> rintro rfl <;> exact absurd nameChar (by decide)
        simp [apart, noOperator]
  · have nameChar := inside c member
    rw [not_isNameChar_of_isBlank blank] at nameChar
    cases nameChar

/-! ### Legible marks -/

/-- What the grammar sees of a lexeme. -/
def Expression.Lexeme.terminal (place : String → String × Nat) : Lexeme → Terminal
  | .number digits => .literal digits
  | .name label => .slot (place label).1 (place label).2
  | .symbol c => .symbol c

/-- The tokens of a mark, none for a blank. -/
def Expression.Lexeme.tokens (place : String → String × Nat) (mark : Lexeme) : List CToken :=
  if mark.isBlank then [] else (mark.terminal place).tokens

/-- Marks of an expression that the evaluator takes, blanks in between. -/
structure Legible (place : String → String × Nat) (marks : List Lexeme) : Prop where
  chain : marks.IsChain fun first second => first.isBlank = false → second.isBlank = false →
    (first.terminal place).mayPrecede (second.terminal place)
  arithmetic : ∀ mark ∈ marks, mark.isBlank = false → (mark.terminal place).isArithmetic
  decimal : ∀ digits, .number digits ∈ marks → digits ≠ [] ∧ digits.all Char.isDigit
  named : ∀ label, .name label ∈ marks →
    IsIdentifier label.toList ∧ IsIdentifier (place label).1.toList

namespace Legible

variable {place : String → String × Nat} {mark : Lexeme} {marks : List Lexeme}

theorem tail (legible : Legible place (mark :: marks)) : Legible place marks where
  chain := legible.chain.tail
  arithmetic other member := legible.arithmetic other (List.mem_cons_of_mem _ member)
  decimal digits member := legible.decimal digits (List.mem_cons_of_mem _ member)
  named label member := legible.named label (List.mem_cons_of_mem _ member)

theorem symbol_cases {c : Char} (legible : Legible place (.symbol c :: marks)) :
    isBlank c ∨ isBlank c = false ∧ c ∈ arithmeticSymbols := by
  cases blank : isBlank c with
  | true => exact .inl rfl
  | false =>
      have known := legible.arithmetic (.symbol c) List.mem_cons_self blank
      exact .inr ⟨rfl, by simpa [Lexeme.terminal, Terminal.isArithmetic] using known⟩

theorem not_isNameChar_of_mem {c : Char} (legible : Legible place marks)
    (listed : .symbol c ∈ marks) : isNameChar c = false := by
  cases blank : isBlank c with
  | true => exact not_isNameChar_of_isBlank blank
  | false =>
      have arithmetic := legible.arithmetic (.symbol c) listed blank
      have member : c ∈ arithmeticSymbols := by
        simpa [Lexeme.terminal, Terminal.isArithmetic] using arithmetic
      have known : ∀ c ∈ arithmeticSymbols, isNameChar c = false := forall_mem_of_all (by decide)
      exact known c member

/-- After an operand comes an operator, a closing parenthesis or a blank. -/
theorem head_after_operand (legible : Legible place (mark :: marks)) (written : mark.isBlank = false)
    (ends : (mark.terminal place).endsOperand) :
    ∀ d ∈ (marks.flatMap (Lexeme.hostChars place)).head?, isNameChar d = false ∧ d ≠ '.' := by
  intro d first
  cases marks with
  | nil => simp at first
  | cons next marks =>
      have follows : next.isBlank = false → (next.terminal place).follows := by
        intro visible
        have joined := (List.isChain_cons_cons.mp legible.chain).1 written visible
        simpa [Terminal.mayPrecede, ends] using joined
      cases next with
      | number digits => exact absurd (follows rfl) (by simp [Lexeme.terminal, Terminal.follows])
      | name label => exact absurd (follows rfl) (by simp [Lexeme.terminal, Terminal.follows])
      | symbol c =>
          obtain rfl : c = d := by simpa [Lexeme.hostChars] using first
          refine ⟨legible.tail.not_isNameChar_of_mem List.mem_cons_self, ?_⟩
          rintro rfl
          rcases legible.tail.symbol_cases with blank | ⟨-, known⟩
          · exact absurd blank (by decide)
          · exact absurd known (by decide)

/-- What follows a symbol does not extend it, unless two signs meet or a `/` meets a name. -/
theorem head_after_symbol {c : Char} (legible : Legible place (.symbol c :: marks))
    (visible : isBlank c = false)
    (separate : ∀ d ∈ (marks.flatMap Lexeme.chars).head?, apart c d) :
    ∀ d ∈ (marks.flatMap (Lexeme.hostChars place)).head?, d ∉ extenders c := by
  have member : c ∈ arithmeticSymbols := by
    rcases legible.symbol_cases with blank | ⟨-, member⟩
    · rw [visible] at blank
      cases blank
    · exact member
  have plainExtenders : ∀ d ∈ extenders c, isBlank d = false ∧ d.isDigit = false := by
    have table : ∀ c ∈ arithmeticSymbols, (extenders c).all fun d => !isBlank d && !d.isDigit :=
      forall_mem_of_all (by decide)
    simpa using table c member
  intro d first
  cases marks with
  | nil => simp at first
  | cons next marks =>
      cases next with
      | number digits =>
          obtain ⟨written, decimal⟩ := legible.decimal digits (by simp)
          obtain ⟨digit, more, rfl⟩ := List.exists_cons_of_ne_nil written
          obtain rfl : digit = d := by simpa [Lexeme.hostChars] using first
          intro extended
          simp [(plainExtenders digit extended).2] at decimal
      | name label =>
          obtain rfl : '*' = d := by simpa [Lexeme.hostChars, referenceChars] using first
          obtain ⟨⟨start, more, spelled, isStart, -⟩, -⟩ := legible.named label (by simp)
          have notSlash : c ≠ '/' := by
            rintro rfl
            have meets := separate start (by simp [Lexeme.chars, spelled])
            simp [apart, isStart] at meets
          have known : ∀ c ∈ arithmeticSymbols, c ≠ '/' → '*' ∉ extenders c :=
            forall_mem_of_all (by decide)
          exact known c member notSlash
      | symbol e =>
          obtain rfl : e = d := by simpa [Lexeme.hostChars] using first
          rcases legible.tail.symbol_cases with blank | ⟨notBlank, known⟩
          · intro extended
            rw [(plainExtenders e extended).1] at blank
            cases blank
          · have joined := (List.isChain_cons_cons.mp legible.chain).1 visible notBlank
            have meets := separate e (by simp [Lexeme.chars])
            have table : ∀ c ∈ arithmeticSymbols, arithmeticSymbols.all fun e =>
                decide ((Terminal.symbol c).mayPrecede (.symbol e) → apart c e → e ∉ extenders c) :=
              forall_mem_of_all (by decide)
            exact forall_mem_of_all (table c member) e known joined meets

/-- After a `*` an operand has to start. -/
theorem head_after_star (legible : Legible place (.symbol '*' :: marks)) :
    ∀ d ∈ (marks.flatMap (Lexeme.hostChars place)).head?, d ≠ '/' := by
  rintro d first rfl
  cases marks with
  | nil => simp at first
  | cons next marks =>
      cases next with
      | number digits =>
          obtain ⟨written, decimal⟩ := legible.decimal digits (by simp)
          obtain ⟨digit, more, rfl⟩ := List.exists_cons_of_ne_nil written
          obtain rfl : digit = '/' := by simpa [Lexeme.hostChars] using first
          exact absurd decimal (by simp)
      | name label => simp [Lexeme.hostChars, referenceChars] at first
      | symbol c =>
          obtain rfl : c = '/' := by simpa [Lexeme.hostChars] using first
          exact absurd ((List.isChain_cons_cons.mp legible.chain).1 rfl rfl)
            (by simp [Lexeme.terminal, Terminal.mayPrecede, Terminal.endsOperand,
              Terminal.startsOperand])

end Legible

/-! ### One mark at a time -/

/-- The tokens of a slot reference that nothing is stuck to. -/
theorem lex_reference {table : String} {index : Nat} {rest : List Char}
    (identifier : IsIdentifier table.toList) (stops : ∀ d ∈ rest.head?, isNameChar d = false) :
    lex (referenceChars (table, index) ++ rest) =
      (lex rest).map ((Terminal.slot table index).tokens ++ ·) := by
  obtain ⟨c, cs, spelled, start, inside⟩ := identifier
  have decimal := all_isDigit_toDigits index
  have noExtender : ∀ c ∈ ['(', ')', '[', ']'], extenders c = [] := forall_mem_of_all (by decide)
  have shape : referenceChars (table, index) ++ rest =
      '*' :: '(' :: ('l' :: ['o', 'n', 'g'] ++ (' ' :: '*' :: ')' :: (c :: cs ++
        ('[' :: (Nat.toDigits 10 index ++ (']' :: '.' :: ('d' :: ['a', 't', 'a'] ++ rest))))))) := by
    simp [referenceChars, spelled]
  rw [shape,
    lex_punctuator (by decide) (by simp; decide) (by simp),
    lex_punctuator (by decide) (by simp [noExtender]) (by simp),
    lex_word (by decide) (by decide) (by simp; decide),
    lex_space (by decide),
    lex_punctuator (by decide) (by simp; decide) (by simp),
    lex_punctuator (by decide) (by simp [noExtender]) (by simp),
    lex_word start inside (by simp; decide),
    lex_punctuator (by decide) (by simp [noExtender]) (by simp),
    lex_number Nat.toDigits_ne_nil decimal (by simp; decide),
    lex_punctuator (by decide) (by simp [noExtender]) (by simp),
    lex_punctuator (by decide) (by simp; decide) (by simp),
    lex_word (by decide) (by decide) stops]
  simp [Option.map_map, Function.comp_def, Terminal.tokens, slotTokens, spelled]

/-- **One mark**: C reads it as its tokens if nothing that follows is stuck to it. -/
theorem lex_mark {place : String → String × Nat} {mark : Lexeme} {marks : List Lexeme}
    (legible : Legible place (mark :: marks))
    (separate : ∀ first ∈ mark.chars.getLast?, ∀ second ∈ (marks.flatMap Lexeme.chars).head?,
      apart first second)
    (spaces : ∀ c ∈ mark.chars, isBlank c → isCSpace c) :
    lex (mark.hostChars place ++ marks.flatMap (Lexeme.hostChars place)) =
      (lex (marks.flatMap (Lexeme.hostChars place))).map (mark.tokens place ++ ·) := by
  cases mark with
  | number digits =>
      obtain ⟨written, decimal⟩ := legible.decimal digits List.mem_cons_self
      have stops := legible.head_after_operand rfl rfl
      rw [Lexeme.hostChars, lex_number written decimal stops]
      rfl
  | name label =>
      obtain ⟨-, identifier⟩ := legible.named label List.mem_cons_self
      have stops := legible.head_after_operand rfl rfl
      rw [Lexeme.hostChars, lex_reference identifier fun d first => (stops d first).1]
      rfl
  | symbol c =>
      rw [Lexeme.hostChars, List.singleton_append]
      cases visible : isBlank c with
      | true =>
          have space := spaces c (by simp [Lexeme.chars]) visible
          simp [lex_space space, Lexeme.tokens, Lexeme.isBlank, visible]
      | false =>
          have symbol : c ∈ symbols := by
            rcases legible.symbol_cases with blank | ⟨-, member⟩
            · rw [visible] at blank
              cases blank
            · have known : ∀ c ∈ arithmeticSymbols, c ∈ symbols := forall_mem_of_all (by decide)
              exact known c member
          have noPoint : c ≠ '.' := by
            rintro rfl
            rcases legible.symbol_cases with blank | ⟨-, member⟩
            · exact absurd blank (by decide)
            · exact absurd member (by decide)
          have stops := legible.head_after_symbol visible (separate c (by simp [Lexeme.chars]))
          rw [lex_punctuator symbol stops fun point => absurd point noPoint]
          simp [Lexeme.tokens, Lexeme.isBlank, visible, Lexeme.terminal, Terminal.tokens]

/-! ### All marks -/

theorem spliceableChars_cons {mark : Lexeme} {marks : List Lexeme} :
    SpliceableChars ((mark :: marks).flatMap Lexeme.chars) ↔
      SpliceableChars mark.chars ∧ SpliceableChars (marks.flatMap Lexeme.chars) ∧
        ∀ first ∈ mark.chars.getLast?, ∀ second ∈ (marks.flatMap Lexeme.chars).head?,
          apart first second := by
  rw [List.flatMap_cons]
  exact spliceableChars_append

/-- **The tokens of the host form of a spliceable bound** are those of its marks. -/
theorem lex_hostChars {place : String → String × Nat} {marks : List Lexeme}
    (legible : Legible place marks) (spliceable : SpliceableChars (marks.flatMap Lexeme.chars)) :
    lex (marks.flatMap (Lexeme.hostChars place)) = some (marks.flatMap (Lexeme.tokens place)) := by
  induction marks with
  | nil => rfl
  | cons mark marks ih =>
      obtain ⟨own, rest, separate⟩ := spliceableChars_cons.mp spliceable
      rw [List.flatMap_cons, lex_mark legible separate own.2, ih legible.tail rest]
      rfl

/-! ### A comment that is opened is never closed -/

/-- Whether two characters do not close a comment. -/
def keepsComment (first second : Char) : Bool :=
  !(first == '*' && second == '/')

theorem commentRest?_eq_none {cs : List Char}
    (kept : cs.IsChain fun first second => keepsComment first second) : commentRest? cs = none := by
  induction cs with
  | nil => rfl
  | cons c cs ih =>
      have notEnd : ¬ (c = '*' ∧ cs.head? = some '/') := by
        rintro ⟨rfl, slash⟩
        have meets := (List.isChain_cons.mp kept).1 '/' slash
        exact absurd meets (by decide)
      rw [commentRest?, if_neg notEnd, ih kept.tail]
      rfl

/-- Characters without a star close no comment. -/
theorem keepsComment_of_no_star {cs : List Char} (noStar : '*' ∉ cs) :
    cs.IsChain fun first second => keepsComment first second := by
  induction cs with
  | nil => exact List.isChain_nil
  | cons c cs ih =>
      simp only [List.mem_cons, not_or] at noStar
      refine List.isChain_cons.mpr ⟨fun d _ => ?_, ih noStar.2⟩
      simp [keepsComment, Ne.symm noStar.1]

theorem keepsComment_reference {table : String} {index : Nat}
    (identifier : IsIdentifier table.toList) :
    (referenceChars (table, index)).IsChain fun first second => keepsComment first second := by
  obtain ⟨c, cs, spelled, start, inside⟩ := identifier
  have noStarTable : '*' ∉ table.toList := by
    rw [spelled]
    intro member
    rcases List.mem_cons.mp member with rfl | member
    · exact absurd start (by decide)
    · exact absurd (List.all_eq_true.mp inside _ member) (by decide)
  have noStarIndex : '*' ∉ Nat.toDigits 10 index := fun member =>
    absurd (Nat.isDigit_of_mem_toDigits (by decide) (by decide) member) (by decide)
  have rest : (table.toList ++ (['['] ++ (Nat.toDigits 10 index ++
      [']', '.', 'd', 'a', 't', 'a']))).IsChain fun first second => keepsComment first second :=
    keepsComment_of_no_star (by simp [noStarTable, noStarIndex])
  have opening : ['*', '(', 'l', 'o', 'n', 'g', ' ', '*', ')'].IsChain
      fun first second => keepsComment first second := by decide
  unfold referenceChars
  simp only [List.append_assoc]
  refine List.isChain_append.mpr ⟨opening, rest, fun last isLast next _ => ?_⟩
  obtain rfl : ')' = last := by simpa using isLast
  rfl

/-- Nothing in a host form closes a comment: no `/` stands directly after a `*`. -/
theorem keepsComment_hostChars {place : String → String × Nat} {marks : List Lexeme}
    (legible : Legible place marks) :
    (marks.flatMap (Lexeme.hostChars place)).IsChain
      fun first second => keepsComment first second := by
  induction marks with
  | nil => exact List.isChain_nil
  | cons mark marks ih =>
      rw [List.flatMap_cons]
      cases mark with
      | number digits =>
          have noStar : '*' ∉ digits := fun member =>
            absurd (List.all_eq_true.mp (legible.decimal digits List.mem_cons_self).2 _ member)
              (by decide)
          refine List.isChain_append.mpr ⟨keepsComment_of_no_star noStar, ih legible.tail, ?_⟩
          intro last isLast next _
          have differ : last ≠ '*' := by
            rintro rfl
            exact noStar (List.mem_of_getLast? isLast)
          simp [keepsComment, differ]
      | name label =>
          obtain ⟨-, identifier⟩ := legible.named label List.mem_cons_self
          refine List.isChain_append.mpr ⟨keepsComment_reference identifier, ih legible.tail, ?_⟩
          intro last isLast next _
          have ending : (referenceChars (place label)).getLast? = some 'a' := by
            rw [referenceChars, List.getLast?_append]
            rfl
          obtain rfl : 'a' = last := Option.some.inj (ending.symm.trans isLast)
          rfl
      | symbol c =>
          refine List.isChain_append.mpr ⟨List.isChain_singleton c, ih legible.tail, ?_⟩
          intro last isLast next isNext
          obtain rfl : c = last := Option.some.inj isLast
          by_cases star : c = '*'
          · subst star
            have noSlash : next ≠ '/' := legible.head_after_star next isNext
            simp [keepsComment, noSlash]
          · simp [keepsComment, star]

/-! ### Bounds that are not spliceable -/

theorem spliceableChars_mark {place : String → String × Nat} {mark : Lexeme} {marks : List Lexeme}
    (legible : Legible place (mark :: marks))
    (spaces : ∀ c ∈ mark.chars, isBlank c → isCSpace c) : SpliceableChars mark.chars := by
  cases mark with
  | number digits =>
      apply spliceableChars_of_nameChars
      rw [List.all_eq_true]
      intro c member
      exact isNameChar_of_isDigit
        (List.all_eq_true.mp (legible.decimal digits List.mem_cons_self).2 c member)
  | name label =>
      obtain ⟨⟨c, cs, spelled, start, inside⟩, -⟩ := legible.named label List.mem_cons_self
      apply spliceableChars_of_nameChars
      rw [Lexeme.chars, spelled, List.all_cons, isNameChar_of_isNameStart start, inside]
      rfl
  | symbol c => exact ⟨List.isChain_singleton c, spaces⟩

/-- A mark that holds a character of no name is that character. -/
theorem eq_symbol_of_mem {place : String → String × Nat} {mark : Lexeme} {marks : List Lexeme}
    {c : Char} (legible : Legible place (mark :: marks)) (member : c ∈ mark.chars)
    (other : isNameChar c = false) : mark = .symbol c := by
  cases mark with
  | number digits =>
      have digit := List.all_eq_true.mp (legible.decimal digits List.mem_cons_self).2 c member
      rw [isNameChar_of_isDigit digit] at other
      cases other
  | name label =>
      obtain ⟨⟨start, more, spelled, isStart, inside⟩, -⟩ := legible.named label List.mem_cons_self
      rw [Lexeme.chars, spelled] at member
      rcases List.mem_cons.mp member with rfl | member
      · rw [isNameChar_of_isNameStart isStart] at other
        cases other
      · rw [List.all_eq_true.mp inside c member] at other
        cases other
  | symbol d =>
      rw [Lexeme.chars, List.mem_singleton] at member
      rw [member]

theorem chars_ne_nil {place : String → String × Nat} {mark : Lexeme} {marks : List Lexeme}
    (legible : Legible place (mark :: marks)) : mark.chars ≠ [] := by
  cases mark with
  | number digits => exact (legible.decimal digits List.mem_cons_self).1
  | name label =>
      obtain ⟨⟨start, more, spelled, -, -⟩, -⟩ := legible.named label List.mem_cons_self
      simp [Lexeme.chars, spelled]
  | symbol c => simp [Lexeme.chars]

/-- Two signs that meet are one token. -/
theorem lex_met_signs {place : String → String × Nat} {mark next : Lexeme} {marks : List Lexeme}
    {sign : Char} (isSign : sign = '+' ∨ sign = '-') (legible : Legible place (mark :: next :: marks))
    (inFirst : sign ∈ mark.chars) (inSecond : sign ∈ next.chars) {tokens : List CToken}
    (cut : lex ((mark :: next :: marks).flatMap (Lexeme.hostChars place)) = some tokens) :
    CToken.punctuator [sign, sign] ∈ tokens := by
  have noName : isNameChar sign = false := by rcases isSign with rfl | rfl <;> decide
  obtain rfl := eq_symbol_of_mem legible inFirst noName
  obtain rfl := eq_symbol_of_mem legible.tail inSecond noName
  simp only [Lexeme.hostChars, List.flatMap_cons, List.singleton_append] at cut
  rw [lex_doubled isSign] at cut
  obtain ⟨later, -, rfl⟩ := Option.map_eq_some_iff.mp cut
  exact List.mem_cons_self

/-- A `/` before a name opens a comment that nothing closes. -/
theorem lex_slash_name {place : String → String × Nat} {next : Lexeme} {marks : List Lexeme}
    {c : Char} (legible : Legible place (.symbol '/' :: next :: marks)) (inNext : c ∈ next.chars)
    (start : isNameStart c) :
    lex ((.symbol '/' :: next :: marks).flatMap (Lexeme.hostChars place)) = none := by
  cases next with
  | name label =>
      have kept := keepsComment_hostChars legible.tail
      obtain ⟨more, spelled⟩ : ∃ more, ((Lexeme.name label :: marks).flatMap
          (Lexeme.hostChars place)) = '*' :: more := ⟨_, rfl⟩
      rw [spelled] at kept
      have unclosed : commentRest? more = none := commentRest?_eq_none kept.tail
      rw [List.flatMap_cons, spelled, Lexeme.hostChars, List.singleton_append,
        lex_comment_open unclosed]
  | number digits =>
      have digit := List.all_eq_true.mp (legible.tail.decimal digits List.mem_cons_self).2 c inNext
      rw [not_isDigit_of_isNameStart start] at digit
      cases digit
  | symbol d =>
      obtain rfl : c = d := by simpa [Lexeme.chars] using inNext
      have nameChar := isNameChar_of_isNameStart start
      rw [legible.tail.not_isNameChar_of_mem List.mem_cons_self] at nameChar
      cases nameChar

/-- Where two marks are stuck together, C finds a doubled sign or an open comment. -/
theorem lex_joined {place : String → String × Nat} {mark : Lexeme} {marks : List Lexeme}
    {first second : Char} (legible : Legible place (mark :: marks))
    (isFirst : first ∈ mark.chars.getLast?) (isSecond : second ∈ (marks.flatMap Lexeme.chars).head?)
    (stuck : apart first second = false) {tokens : List CToken}
    (cut : lex ((mark :: marks).flatMap (Lexeme.hostChars place)) = some tokens) :
    ∃ sign, CToken.punctuator [sign, sign] ∈ tokens := by
  cases marks with
  | nil => simp at isSecond
  | cons next marks =>
      have inNext : second ∈ next.chars := by
        obtain ⟨c, cs, spelled⟩ := List.exists_cons_of_ne_nil (chars_ne_nil legible.tail)
        refine List.mem_of_head? ?_
        simpa [spelled] using isSecond
      have inMark := List.mem_of_getLast? isFirst
      simp only [apart, Bool.not_eq_false', Bool.or_eq_true, Bool.and_eq_true, beq_iff_eq] at stuck
      rcases stuck with (⟨rfl, rfl⟩ | ⟨rfl, rfl⟩) | ⟨rfl, start⟩
      · exact ⟨'+', lex_met_signs (.inl rfl) legible inMark inNext cut⟩
      · exact ⟨'-', lex_met_signs (.inr rfl) legible inMark inNext cut⟩
      · obtain rfl := eq_symbol_of_mem legible inMark (by decide)
        rw [lex_slash_name legible inNext start] at cut
        cases cut

/-- **The host form of a bound that is not spliceable** has no tokens, or a doubled sign among
them. -/
theorem lex_unspliceable {place : String → String × Nat} {marks : List Lexeme}
    (legible : Legible place marks)
    (unspliceable : ¬ SpliceableChars (marks.flatMap Lexeme.chars)) {tokens : List CToken}
    (cut : lex (marks.flatMap (Lexeme.hostChars place)) = some tokens) :
    ∃ sign, CToken.punctuator [sign, sign] ∈ tokens := by
  induction marks generalizing tokens with
  | nil => exact absurd ⟨List.isChain_nil, by simp⟩ unspliceable
  | cons mark marks ih =>
      rw [List.flatMap_cons] at cut
      by_cases spaces : ∀ c ∈ mark.chars, isBlank c → isCSpace c
      · have own := spliceableChars_mark legible spaces
        by_cases separate : ∀ first ∈ mark.chars.getLast?,
            ∀ second ∈ (marks.flatMap Lexeme.chars).head?, apart first second
        · -- the first mark is cut as it should be, so the fault lies further on
          have rest : ¬ SpliceableChars (marks.flatMap Lexeme.chars) := fun rest =>
            unspliceable (spliceableChars_cons.mpr ⟨own, rest, separate⟩)
          rw [lex_mark legible separate spaces] at cut
          obtain ⟨later, cutRest, rfl⟩ := Option.map_eq_some_iff.mp cut
          obtain ⟨sign, member⟩ := ih legible.tail rest cutRest
          exact ⟨sign, List.mem_append_right _ member⟩
        · push Not at separate
          obtain ⟨first, isFirst, second, isSecond, stuck⟩ := separate
          exact lex_joined legible isFirst isSecond (by simpa using stuck) cut
      · push Not at spaces
        obtain ⟨c, member, blank, notSpace⟩ := spaces
        obtain rfl := eq_symbol_of_mem legible member (not_isNameChar_of_isBlank blank)
        rw [Lexeme.hostChars, List.singleton_append,
          lex_stray blank (by simpa using notSpace)] at cut
        cases cut

end ForeignGlue
