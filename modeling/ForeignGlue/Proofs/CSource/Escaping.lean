/-
**Escaped text stays between its quotes.**

Comments, attributes and messages are written as string literals, whatever they say. A reader that goes
through such a literal character by character is back between characters after the spelling of each
one, so it meets the closing quote where the text ends and not before. And texts are told apart by
their spellings, since the first character of a text can be read off its spelling.

* `LiteralState.next`: how a reader of string literals goes on;
* `scan_escapeChar`: **the step**: the spelling of a character leaves the reader inside the literal;
* `scan_flatMap_escapeChar`: **the run**: the spelling of a text does;
* `firstChar?_escapeChar`: the first character, read off the spelling of a text;
* `quoted_is_one_literal`: a quoted text is one literal, and the text of no other one.
-/

import ForeignGlue.Proofs.CSource.StringLiteral

namespace ForeignGlue.CSource

open ForeignGlue.CExpression (isOctalDigit)
open ForeignGlue.Source (escape escapeChar hexDigit quoted)
open ForeignGlue.Text

/-! ### A reader of string literals -/

/-- Where a reader of a string literal stands. -/
inductive LiteralState where
  | beforeQuote
  /-- Between two characters of the literal. -/
  | inside
  /-- Behind a backslash that starts an escape. -/
  | escaped
  /-- In an escape that needs some more hexadecimal digits. -/
  | digits (missing : Nat)
  | complete
  /-- What was read is not the start of a string literal. -/
  | broken
  deriving DecidableEq, Repr

/-- **How a reader of string literals goes on.** A quote ends the literal unless it is escaped, and a
control character is not allowed at all. An escape is a digit, one of the letters and marks, or a
letter that takes digits: a hexadecimal escape has at least one, the name of a character four or
eight. -/
def LiteralState.next (state : LiteralState) (c : Char) : LiteralState :=
  match state with
  | .beforeQuote => if c = '"' then .inside else .broken
  | .inside =>
    if c = '"' then .complete
    else if c = '\\' then .escaped
    else if isControl c then .broken
    else .inside
  | .escaped =>
    if c = 'x' then .digits 1
    else if c = 'u' then .digits 4
    else if c = 'U' then .digits 8
    else if isOctalDigit c || (simpleEscapes.lookup c).isSome then .inside
    else .broken
  | .digits missing =>
    if isHexDigit c then (if missing ≤ 1 then .inside else .digits (missing - 1)) else .broken
  | .complete => .broken
  | .broken => .broken

/-- Where a reader stands after some more characters. -/
def LiteralState.scan (state : LiteralState) (cs : List Char) : LiteralState :=
  cs.foldl next state

/-- Whether characters are one string literal, from its opening to its closing quote. -/
def IsOneLiteral (cs : List Char) : Prop :=
  LiteralState.beforeQuote.scan cs = .complete

instance (cs : List Char) : Decidable (IsOneLiteral cs) :=
  inferInstanceAs (Decidable (_ = _))

namespace LiteralState

theorem scan_append (state : LiteralState) (cs ds : List Char) :
    state.scan (cs ++ ds) = (state.scan cs).scan ds :=
  List.foldl_append

theorem scan_broken (cs : List Char) : broken.scan cs = .broken := by
  induction cs with
  | nil => rfl
  | cons c cs ih => exact ih

/-- A literal does not go on. -/
theorem scan_complete_of_ne_nil {cs : List Char} (more : cs ≠ []) : complete.scan cs = .broken := by
  obtain ⟨c, cs, rfl⟩ := List.exists_cons_of_ne_nil more
  exact scan_broken cs

theorem next_of_isControl {c : Char} (control : isControl c) (state : LiteralState) :
    state.next c = .broken := by
  have other {d : Char} (printed : isControl d = false) : c ≠ d := by
    rintro rfl
    rw [printed] at control
    cases control
  have noOctal : isOctalDigit c = false := by
    rw [← Bool.not_eq_true]
    intro octal
    have range := (isControl_iff c).mp control
    simp only [isOctalDigit, Bool.and_eq_true, decide_eq_true_eq] at octal
    have low : 48 ≤ c.toNat := octal.1
    have high : c.toNat < 56 := octal.2
    omega
  have noEscape : simpleEscapes.lookup c = none := by
    rw [List.lookup_eq_none_iff]
    have printed : ∀ pair ∈ simpleEscapes, isControl pair.1 = false := forall_mem_of_all (by decide)
    intro pair member
    simpa using other (printed pair member)
  cases state with
  | beforeQuote => exact if_neg (other (by decide))
  | inside =>
      rw [next, if_neg (other (by decide)), if_neg (other (by decide)), if_pos control]
  | escaped =>
      rw [next, if_neg (other (by decide)), if_neg (other (by decide)), if_neg (other (by decide)),
        noOctal, noEscape]
      rfl
  | digits missing => rw [next, isHexDigit_of_isControl control, if_neg Bool.false_ne_true]
  | complete => rfl
  | broken => rfl

/-- What a reader gets through has no control characters. -/
theorem not_isControl_of_scan {state : LiteralState} {cs : List Char}
    (read : state.scan cs ≠ .broken) : ∀ c ∈ cs, isControl c = false := by
  induction cs generalizing state with
  | nil => exact List.forall_mem_nil _
  | cons c cs ih =>
      refine List.forall_mem_cons.mpr ⟨?_, ih read⟩
      rw [← Bool.not_eq_true]
      intro control
      refine read ?_
      show (state.next c).scan cs = .broken
      rw [next_of_isControl control, scan_broken]

/-- No part of a literal is a literal before its last character. -/
theorem eq_of_prefix_of_isOneLiteral {part cs : List Char} (starts : part <+: cs)
    (whole : IsOneLiteral cs) (ended : IsOneLiteral part) : part = cs := by
  obtain ⟨rest, rfl⟩ := starts
  rw [IsOneLiteral, scan_append, ended] at whole
  by_cases more : rest = []
  · rw [more, List.append_nil]
  · rw [scan_complete_of_ne_nil more] at whole
    cases whole

/-! ### Spelled characters -/

/-- Behind a backslash stands a letter or mark that is an escape by itself. -/
theorem next_escaped {letter : Char} {bytes : List UInt8}
    (read : escapeSequence? [letter] = some (bytes, 1)) : escaped.next letter = .inside := by
  by_cases hexadecimal : letter = 'x'
  · subst hexadecimal
    cases read
  by_cases short : letter = 'u'
  · subst short
    cases read
  by_cases long : letter = 'U'
  · subst long
    cases read
  rw [next, if_neg hexadecimal, if_neg short, if_neg long]
  by_cases octal : isOctalDigit letter = true
  · rw [octal]
    rfl
  · rw [escapeSequence?, if_neg octal] at read
    · obtain ⟨byte, found, -⟩ := Option.map_eq_some_iff.mp read
      rw [found]
      simp
    · exact hexadecimal
    · exact short
    · exact long

theorem next_hexDigit : ∀ n < 16, (digits 1).next (hexDigit n) = .inside ∧
    inside.next (hexDigit n) = .inside := by
  decide

/-- **The spelling of a character** leaves the reader inside the literal. -/
theorem scan_escapeChar (c : Char) : inside.scan (escapeChar c) = .inside := by
  cases escaped : isHexEscaped c with
  | true =>
      have range := (isControl_iff c).mp (isControl_of_isHexEscaped escaped)
      have high := (next_hexDigit (c.toNat / 16) (by omega)).1
      have low := (next_hexDigit (c.toNat % 16) (by omega)).2
      rw [escapeChar_of_isHexEscaped escaped]
      show ((digits 1).next _).next _ = _
      rw [high, low]
  | false =>
      rcases escapeChar_of_plain escaped with ⟨letter, spelled, -, -, read⟩ | ⟨spelled, notEscape, printed⟩
      · rw [spelled]
        exact next_escaped (read [])
      · have notQuote : c ≠ '"' := by
          rintro rfl
          cases spelled
        rw [spelled]
        show inside.next c = _
        rw [next, if_neg notQuote, if_neg notEscape, printed, if_neg Bool.false_ne_true]

/-- **The spelling of a text** leaves the reader inside the literal. -/
theorem scan_flatMap_escapeChar (cs : List Char) : inside.scan (cs.flatMap escapeChar) = .inside := by
  induction cs with
  | nil => rfl
  | cons c cs ih => rw [List.flatMap_cons, scan_append, scan_escapeChar, ih]

end LiteralState

theorem isOneLiteral_quoted (text : String) : IsOneLiteral (quoted text).toList := by
  have spelled : (quoted text).toList = '"' :: (text.toList.flatMap escapeChar ++ ['"']) := by
    simp [quoted, escape]
  rw [IsOneLiteral, spelled]
  show LiteralState.inside.scan _ = _
  rw [LiteralState.scan_append, LiteralState.scan_flatMap_escapeChar]
  rfl

/-! ### Texts and their spellings -/

/-- The character that a spelling starts with, and what follows it. Behind `x` two digits are read. -/
def firstChar? : List Char → Option (Char × List Char)
  | [] => none
  | '\\' :: 'x' :: high :: low :: rest =>
    (byte? 16 [high, low]).map fun byte => (Char.ofNat byte.toNat, rest)
  | '\\' :: letter :: rest =>
    ((escapeSequence? [letter]).bind fun read => read.1.head?).map fun byte =>
      (Char.ofNat byte.toNat, rest)
  | c :: rest => some (c, rest)

theorem ofNat_byte {c : Char} (small : c.toNat < 256) :
    Char.ofNat (UInt8.ofNat c.toNat).toNat = c := by
  rw [UInt8.toNat_ofNat_of_lt' small, Char.ofNat_toNat]

/-- **The first character of a text** is read off its spelling. -/
theorem firstChar?_escapeChar (c : Char) (rest : List Char) :
    firstChar? (escapeChar c ++ rest) = some (c, rest) := by
  cases escaped : isHexEscaped c with
  | true =>
      have range := (isControl_iff c).mp (isControl_of_isHexEscaped escaped)
      rw [escapeChar_of_isHexEscaped escaped]
      show (byte? 16 _).map _ = _
      rw [byte?_two_digits (by omega), Option.map_some, ofNat_byte (by omega)]
      rfl
  | false =>
      rcases escapeChar_of_plain escaped with ⟨letter, spelled, ascii, -, read⟩ | ⟨spelled, notEscape, -⟩
      · have notNumber : letter ≠ 'x' := by
          rintro rfl
          cases read []
        have small : c.toNat < 128 := of_decide_eq_true ascii
        rw [spelled, List.cons_append, List.singleton_append, firstChar?]
        · rw [read []]
          show some (Char.ofNat (UInt8.ofNat c.toNat).toNat, rest) = _
          rw [ofNat_byte (by omega)]
        · exact fun _ _ _ number _ => notNumber number
      · rw [spelled, List.singleton_append, firstChar?]
        · exact fun _ _ _ escape _ => notEscape escape
        · exact fun _ _ escape _ => notEscape escape

theorem flatMap_escapeChar_injective : Function.Injective fun cs : List Char =>
    cs.flatMap escapeChar := by
  intro cs ds same
  simp only at same
  induction cs generalizing ds with
  | nil =>
      cases ds with
      | nil => rfl
      | cons d ds =>
          have first := firstChar?_escapeChar d (ds.flatMap escapeChar)
          rw [← List.flatMap_cons, ← same] at first
          cases first
  | cons c cs ih =>
      have first := firstChar?_escapeChar c (cs.flatMap escapeChar)
      rw [← List.flatMap_cons, same] at first
      cases ds with
      | nil => cases first
      | cons d ds =>
          rw [List.flatMap_cons, firstChar?_escapeChar, Option.some.injEq, Prod.mk.injEq] at first
          rw [first.1, ih first.2.symm]

theorem escape_injective : Function.Injective escape := by
  intro text other same
  have spelled := congrArg String.toList same
  rw [escape, escape, String.toList_ofList, String.toList_ofList] at spelled
  exact String.toList_inj.mp (flatMap_escapeChar_injective spelled)

/-- **A quoted text is one string literal**: a reader comes to the end of the literal with the last
character and not before, there is no control character in it, and C cuts it off whatever follows as
the one literal that is spelled so. **No other text** is spelled alike. -/
theorem quoted_is_one_literal (text : String) :
    IsOneLiteral (quoted text).toList ∧
    (∀ part, part <+: (quoted text).toList → IsOneLiteral part → part = (quoted text).toList) ∧
    (∀ c ∈ (quoted text).toList, isControl c = false) ∧
    Closed (quoted text).toList [.text (escape text).toList] ∧
    ∀ other, escape other = escape text → other = text := by
  have whole := isOneLiteral_quoted text
  refine ⟨whole, fun part starts => LiteralState.eq_of_prefix_of_isOneLiteral starts whole, ?_,
    closed_quoted text, fun other same => escape_injective same⟩
  refine @LiteralState.not_isControl_of_scan .beforeQuote _ fun broken => ?_
  rw [whole] at broken
  cases broken

example : ¬ IsOneLiteral ['"', '\\', '"'] ∧ ¬ IsOneLiteral ['"', '"', '"'] ∧
    IsOneLiteral (quoted "a\\\"\x7f0").toList := by
  decide

end ForeignGlue.CSource
