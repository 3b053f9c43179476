/-
**Tokens of C.**

A C text is cut from the left into white space, comments and tokens, each token being the longest
that can stand there. A comment counts as white space and has to be closed.

* `lex`: the tokens of a text, `none` if some part of it is none.
* `lex_append`: the first piece of a text, and the tokens of what follows it.
* `lex_space`, `lex_number`, `lex_word`, `lex_punctuator`: one piece at a time. Each says which
  character must not follow for the piece to end where it does.
* `lex_comment_open`, `lex_doubled`, `lex_stray`: how a text fails to be cut where it was meant to be.

Character constants and string literals are left out, since no integer bound holds one.
-/

import ForeignGlue.Expression.Token
import ForeignGlue.Proofs.Text.CharClass

namespace ForeignGlue.CExpression

open ForeignGlue.Text
open ForeignGlue.Expression (nameLength)

/-- A token of C. -/
inductive CToken where
  /-- A number of any kind, with what is stuck to it. -/
  | number (text : List Char)
  /-- An identifier or a keyword. -/
  | word (text : List Char)
  | punctuator (text : List Char)
  deriving DecidableEq, Repr

/-! ### How far a piece reaches -/

/-- White space of C: blank, horizontal tab, new line, vertical tab and form feed. -/
def isCSpace (c : Char) : Bool :=
  c == ' ' || c == '\t' || c == '\n' || c == '\x0b' || c == '\x0c'

/-- The length of a comment after its opening, its end included. -/
def commentRest? : List Char → Option Nat
  | [] => none
  | c :: cs => if c = '*' ∧ cs.head? = some '/' then some 2 else (commentRest? cs).map (· + 1)

/-- A letter that a sign may follow inside a number. -/
def isExponentMark (c : Char) : Bool :=
  c == 'e' || c == 'E' || c == 'p' || c == 'P'

/-- The length of the rest of a number, after an exponent mark or not. -/
def numberRest : Bool → List Char → Nat
  | _, [] => 0
  | marked, c :: cs =>
    if isNameChar c || c == '.' then numberRest (isExponentMark c) cs + 1
    else if marked && (c == '+' || c == '-') then numberRest false cs + 1
    else 0

/-- The length of the longest number at the start, zero if there is none. -/
def numberReach : List Char → Nat
  | [] => 0
  | c :: cs =>
    if c.isDigit || (c == '.' && cs.head?.any Char.isDigit) then numberRest false cs + 1 else 0

/-- The punctuators of C, the longer ones first. -/
def punctuators : List (List Char) :=
  [['%', ':', '%', ':'], ['.', '.', '.'], ['<', '<', '='], ['>', '>', '='], ['-', '>'], ['+', '+'],
   ['-', '-'], ['<', '<'], ['>', '>'], ['<', '='], ['>', '='], ['=', '='], ['!', '='], ['&', '&'],
   ['|', '|'], ['*', '='], ['/', '='], ['%', '='], ['+', '='], ['-', '='], ['&', '='], ['^', '='],
   ['|', '='], ['#', '#'], ['<', ':'], [':', '>'], ['<', '%'], ['%', '>'], ['%', ':'], ['['], [']'],
   ['('], [')'], ['\x7b'], ['\x7d'], ['.'], ['&'], ['*'], ['+'], ['-'], ['~'], ['!'], ['/'], ['%'],
   ['<'], ['>'], ['^'], ['|'], ['?'], [':'], [';'], ['='], [','], ['#']]

/-- The longest punctuator at the start. -/
def punctuator? (cs : List Char) : Option (List Char) :=
  punctuators.find? fun punctuator => punctuator.isPrefixOf cs

/-- The first piece of a text: its token, which white space and comments have not, and its length. -/
def firstPiece? (cs : List Char) : Option (Option CToken × Nat) :=
  if cs.head?.any isCSpace then some (none, 1)
  else if ['/', '*'].isPrefixOf cs then (commentRest? (cs.drop 2)).map fun rest => (none, rest + 2)
  else if ['/', '/'].isPrefixOf cs then some (none, (cs.takeWhile fun c => c != '\n').length)
  else if numberReach cs ≠ 0 then some (some (.number (cs.take (numberReach cs))), numberReach cs)
  else if nameLength cs ≠ 0 then some (some (.word (cs.take (nameLength cs))), nameLength cs)
  else (punctuator? cs).map fun text => (some (.punctuator text), text.length)

/-- The tokens of the characters after the first `skip`, which belong to the piece before them. -/
def lexFrom : Nat → List Char → Option (List CToken)
  | _, [] => some []
  | skip + 1, _ :: cs => lexFrom skip cs
  | 0, c :: cs =>
    match firstPiece? (c :: cs) with
    | none => none
    | some (token, length) => (lexFrom (length - 1) cs).map (token.toList ++ ·)

/-- The tokens of a text. -/
def lex (text : List Char) : Option (List CToken) :=
  lexFrom 0 text

/-! ### One piece at a time -/

theorem lexFrom_eq_drop (skip : Nat) (cs : List Char) : lexFrom skip cs = lex (cs.drop skip) :=
  Text.scan_eq_drop (fun _ => by rw [lexFrom, lexFrom]) (fun _ _ _ => by rw [lexFrom]) skip cs

/-- **The first piece of a text**, and the tokens of what follows it. -/
theorem lex_append {piece rest : List Char} {token : Option CToken} (written : piece ≠ [])
    (first : firstPiece? (piece ++ rest) = some (token, piece.length)) :
    lex (piece ++ rest) = (lex rest).map (token.toList ++ ·) := by
  obtain ⟨c, cs, rfl⟩ := List.exists_cons_of_ne_nil written
  rw [List.cons_append] at first
  rw [List.cons_append, lex, lexFrom, first]
  simp [lexFrom_eq_drop]

theorem lex_eq_none {c : Char} {cs : List Char} (first : firstPiece? (c :: cs) = none) :
    lex (c :: cs) = none := by
  rw [lex, lexFrom, first]

theorem lex_space {c : Char} (space : isCSpace c) (rest : List Char) :
    lex (c :: rest) = lex rest := by
  have first : firstPiece? ([c] ++ rest) = some (none, [c].length) := by
    simp [firstPiece?, space]
  simpa using lex_append (by simp) first

/-! ### Numbers and words -/

/-- Digits make up a number as far as no letter, digit, underscore or point follows. -/
theorem numberRest_append {digits rest : List Char} (decimal : digits.all Char.isDigit)
    (stops : ∀ c ∈ rest.head?, isNameChar c = false ∧ c ≠ '.') :
    numberRest false (digits ++ rest) = digits.length := by
  induction digits with
  | nil =>
      cases rest with
      | nil => rfl
      | cons c cs => simp [numberRest, stops c rfl]
  | cons digit digits ih =>
      simp only [List.all_cons, Bool.and_eq_true] at decimal
      have nameChar := isNameChar_of_isDigit decimal.1
      have unmarked : isExponentMark digit = false := by
        rw [← Bool.not_eq_true]
        intro marked
        simp only [isExponentMark, Bool.or_eq_true, beq_iff_eq] at marked
        rcases marked with ((rfl | rfl) | rfl) | rfl <;> exact absurd decimal.1 (by decide)
      simp [numberRest, nameChar, unmarked, ih decimal.2]

/-- A character of a name starts neither white space nor a comment. -/
theorem firstPiece?_nameChar {c : Char} (nameChar : isNameChar c) (cs : List Char) :
    firstPiece? (c :: cs) =
      if numberReach (c :: cs) ≠ 0 then
        some (some (.number ((c :: cs).take (numberReach (c :: cs)))), numberReach (c :: cs))
      else if nameLength (c :: cs) ≠ 0 then
        some (some (.word ((c :: cs).take (nameLength (c :: cs)))), nameLength (c :: cs))
      else (punctuator? (c :: cs)).map fun text => (some (.punctuator text), text.length) := by
  have notSpace : isCSpace c = false := by
    rw [← Bool.not_eq_true]
    intro space
    simp only [isCSpace, Bool.or_eq_true, beq_iff_eq] at space
    rcases space with (((rfl | rfl) | rfl) | rfl) | rfl <;> exact absurd nameChar (by decide)
  have notSlash : ('/' == c) = false := by
    rw [beq_eq_false_iff_ne]
    rintro rfl
    exact absurd nameChar (by decide)
  simp [firstPiece?, notSpace, List.isPrefixOf, notSlash]

theorem firstPiece?_number {digits rest : List Char} (written : digits ≠ [])
    (decimal : digits.all Char.isDigit)
    (stops : ∀ c ∈ rest.head?, isNameChar c = false ∧ c ≠ '.') :
    firstPiece? (digits ++ rest) = some (some (.number digits), digits.length) := by
  obtain ⟨digit, digits, rfl⟩ := List.exists_cons_of_ne_nil written
  simp only [List.all_cons, Bool.and_eq_true] at decimal
  have reach : numberReach (digit :: (digits ++ rest)) = digits.length + 1 := by
    simp [numberReach, decimal.1, numberRest_append decimal.2 stops]
  rw [List.cons_append, firstPiece?_nameChar (isNameChar_of_isDigit decimal.1), reach]
  simp

/-- Digits are a number if it ends after them. -/
theorem lex_number {digits rest : List Char} (written : digits ≠ [])
    (decimal : digits.all Char.isDigit)
    (stops : ∀ c ∈ rest.head?, isNameChar c = false ∧ c ≠ '.') :
    lex (digits ++ rest) = (lex rest).map (CToken.number digits :: ·) := by
  simpa using lex_append written (firstPiece?_number written decimal stops)

theorem firstPiece?_word {c : Char} {cs rest : List Char} (start : isNameStart c)
    (inside : cs.all isNameChar) (stops : ∀ d ∈ rest.head?, isNameChar d = false) :
    firstPiece? (c :: cs ++ rest) = some (some (.word (c :: cs)), (c :: cs).length) := by
  have notPoint : (c == '.') = false := by
    rw [beq_eq_false_iff_ne]
    rintro rfl
    exact absurd start (by decide)
  have noNumber : numberReach (c :: (cs ++ rest)) = 0 := by
    simp [numberReach, not_isDigit_of_isNameStart start, notPoint]
  have run : (cs ++ rest).takeWhile isNameChar = cs := by
    have none : rest.takeWhile isNameChar = [] := by
      cases rest with
      | nil => rfl
      | cons d ds => simp [stops d rfl]
    rw [List.takeWhile_append_of_pos (by simpa using inside), none, List.append_nil]
  have reach : nameLength (c :: (cs ++ rest)) = cs.length + 1 := by
    simp [nameLength, start, run]
  rw [List.cons_append, firstPiece?_nameChar (isNameChar_of_isNameStart start), noNumber, reach]
  simp

/-- A word that nothing is stuck to is a token. -/
theorem lex_word {c : Char} {cs rest : List Char} (start : isNameStart c)
    (inside : cs.all isNameChar) (stops : ∀ d ∈ rest.head?, isNameChar d = false) :
    lex (c :: cs ++ rest) = (lex rest).map (CToken.word (c :: cs) :: ·) := by
  simpa using lex_append (List.cons_ne_nil c cs) (firstPiece?_word start inside stops)

/-! ### Punctuators -/

/-- The characters that must not follow a punctuator of one character, or it is a longer one, or
the start of a comment. -/
def extenders (c : Char) : List Char :=
  (punctuators.filterMap fun text => if text.head? = some c then text[1]? else none) ++
    if c = '/' then ['*', '/'] else []

/-- A punctuator of one character is cut where nothing follows that a longer one would go on with. -/
theorem punctuator?_eq_single {c : Char} {rest : List Char} (member : [c] ∈ punctuators)
    (stops : ∀ d ∈ rest.head?, d ∉ extenders c) : punctuator? (c :: rest) = some [c] := by
  have found : (punctuator? (c :: rest)).isSome := by
    rw [punctuator?, List.find?_isSome]
    exact ⟨[c], member, by simp⟩
  obtain ⟨text, longest⟩ := Option.isSome_iff_exists.mp found
  have listed : text ∈ punctuators := List.mem_of_find?_eq_some longest
  have starts : text <+: c :: rest := by
    simpa using List.find?_some longest
  have nonempty : text ≠ [] := by
    rintro rfl
    exact absurd listed (by decide)
  obtain ⟨first, more, rfl⟩ := List.exists_cons_of_ne_nil nonempty
  obtain ⟨rfl, moreStarts⟩ := List.cons_prefix_cons.mp starts
  cases more with
  | nil => exact longest
  | cons second more =>
      obtain ⟨tail, rfl⟩ := moreStarts
      have extended : second ∈ extenders first :=
        List.mem_append_left _ (List.mem_filterMap.mpr ⟨_, listed, by simp⟩)
      exact absurd extended (stops second (by simp))

/-- The punctuators of a slot reference and of an arithmetic expression. -/
def symbols : List Char :=
  ['+', '-', '*', '/', '(', ')', '[', ']', '.']

theorem firstPiece?_symbol {c : Char} {rest : List Char} (symbol : c ∈ symbols)
    (stops : ∀ d ∈ rest.head?, d ∉ extenders c)
    (noFraction : c = '.' → ∀ d ∈ rest.head?, d.isDigit = false) :
    firstPiece? (c :: rest) = some (some (.punctuator [c]), 1) := by
  have known : ∀ c ∈ symbols, [c] ∈ punctuators ∧ isCSpace c = false ∧ c.isDigit = false ∧
      isNameStart c = false := forall_mem_of_all (by decide)
  obtain ⟨member, notSpace, notDigit, notName⟩ := known c symbol
  have noComment : ['/', '*'].isPrefixOf (c :: rest) = false ∧
      ['/', '/'].isPrefixOf (c :: rest) = false := by
    cases rest with
    | nil => simp [List.isPrefixOf]
    | cons d rest =>
        have apart := stops d rfl
        by_cases slash : '/' = c
        · subst slash
          have star : ('*' == d) = false := beq_eq_false_iff_ne.mpr fun same => apart (by
            subst same; decide)
          have double : ('/' == d) = false := beq_eq_false_iff_ne.mpr fun same => apart (by
            subst same; decide)
          simp [List.isPrefixOf, star, double]
        · simp [List.isPrefixOf, beq_eq_false_iff_ne.mpr slash]
  have noNumber : numberReach (c :: rest) = 0 := by
    cases rest with
    | nil => simp [numberReach, notDigit]
    | cons d rest =>
        by_cases point : c = '.'
        · simp [numberReach, notDigit, noFraction point d rfl]
        · simp [numberReach, notDigit, point]
  simp [firstPiece?, notSpace, noComment, noNumber, nameLength, notName,
    punctuator?_eq_single member stops]

/-- A symbol is a token of its own if nothing extends it. -/
theorem lex_punctuator {c : Char} {rest : List Char} (symbol : c ∈ symbols)
    (stops : ∀ d ∈ rest.head?, d ∉ extenders c)
    (noFraction : c = '.' → ∀ d ∈ rest.head?, d.isDigit = false) :
    lex (c :: rest) = (lex rest).map (CToken.punctuator [c] :: ·) := by
  have first : firstPiece? ([c] ++ rest) = some (some (.punctuator [c]), [c].length) :=
    firstPiece?_symbol symbol stops noFraction
  simpa using lex_append (by simp) first

/-! ### Where a text is not cut as it was meant to be -/

/-- A comment that is not closed. -/
theorem lex_comment_open {rest : List Char} (unclosed : commentRest? rest = none) :
    lex ('/' :: '*' :: rest) = none := by
  apply lex_eq_none
  simp [firstPiece?, show isCSpace '/' = false by decide, unclosed]

/-- Two equal signs in a row are one token. -/
theorem lex_doubled {sign : Char} (isSign : sign = '+' ∨ sign = '-') (rest : List Char) :
    lex (sign :: sign :: rest) = (lex rest).map (CToken.punctuator [sign, sign] :: ·) := by
  have first : firstPiece? ([sign, sign] ++ rest) =
      some (some (.punctuator [sign, sign]), [sign, sign].length) := by
    rcases isSign with rfl | rfl <;>
      simp [firstPiece?, show isCSpace '+' = false by decide, show isCSpace '-' = false by decide,
        numberReach, nameLength, isNameStart, punctuator?, punctuators, List.isPrefixOf]
  simpa using lex_append (by simp) first

/-- A blank that is no white space of C is part of no token. -/
theorem lex_stray {c : Char} (blank : isBlank c) (notSpace : isCSpace c = false)
    (rest : List Char) : lex (c :: rest) = none := by
  have notName := not_isNameChar_of_isBlank blank
  have notStart : isNameStart c = false := by
    rw [← Bool.not_eq_true]
    intro start
    exact absurd (isNameChar_of_isNameStart start) (by simp [notName])
  have notDigit : c.isDigit = false := by
    rw [← Bool.not_eq_true]
    intro digit
    exact absurd (isNameChar_of_isDigit digit) (by simp [notName])
  have noText : ∀ text ∈ punctuators, text.isPrefixOf (c :: rest) = false := by
    intro text member
    have known : ∀ text ∈ punctuators, text ≠ [] ∧ text.head?.all fun d => !isBlank d :=
      forall_mem_of_all (by decide)
    obtain ⟨nonempty, visible⟩ := known text member
    obtain ⟨d, more, rfl⟩ := List.exists_cons_of_ne_nil nonempty
    have notBlank : isBlank d = false := by simpa using visible
    have differ : (d == c) = false := beq_eq_false_iff_ne.mpr fun same => by
      rw [same, blank] at notBlank
      cases notBlank
    simp [List.isPrefixOf, differ]
  have noPunctuator : punctuator? (c :: rest) = none := by
    rw [punctuator?, List.find?_eq_none]
    intro text member
    simp only [noText text member, Bool.false_eq_true, not_false_eq_true]
  have slash : ('/' == c) = false := beq_eq_false_iff_ne.mpr fun same => by
    subst same
    exact absurd blank (by decide)
  have point : (c == '.') = false := beq_eq_false_iff_ne.mpr fun same => by
    subst same
    exact absurd blank (by decide)
  apply lex_eq_none
  simp [firstPiece?, notSpace, List.isPrefixOf, slash, numberReach, notDigit, point, nameLength,
    notStart, noPunctuator]

end ForeignGlue.CExpression
