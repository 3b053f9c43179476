/-
**What string literals denote.**

A string literal denotes bytes. Its plain characters stand for their UTF-8 bytes and an escape stands
for a byte, or for the bytes of a character that it names. A hexadecimal escape takes all hexadecimal
digits that follow it, so what it stands for depends on what is spelled after it.

* `denoted?`: the bytes of a string literal.
* `spelledBytes?_cons_of_plain`, `spelledBytes?_cons_of_isHexEscaped`: what the first character of a
  text stands for in the literal that the text is written as.
* `quoted_denotes_iff`: a text is written as a literal of its own bytes exactly if no hexadecimal
  escape in it is of a character outside ASCII or has a hexadecimal digit after it.
-/

import Mathlib.Data.List.Chain
import ForeignGlue.Json.Quoted
import ForeignGlue.Proofs.CSource.Terminal
import ForeignGlue.Proofs.Text.Utf8

namespace ForeignGlue.CSource

open ForeignGlue.CExpression (isOctalDigit)
open ForeignGlue.Source (escape escapeChar hexDigit quoted)
open ForeignGlue.Text

/-! ### Escape sequences -/

def isHexDigit (c : Char) : Bool :=
  (Json.hexValue c).isSome

/-- The number that digits spell in a base. -/
def numeral (base : Nat) (digits : List Char) : Nat :=
  digits.foldl (fun value digit => value * base + (Json.hexValue digit).getD 0) 0

/-- The byte of a numeric escape. There must be a digit, and the number must fit in a byte. -/
def byte? (base : Nat) (digits : List Char) : Option UInt8 :=
  if digits ≠ [] ∧ numeral base digits < 256 then some (UInt8.ofNat (numeral base digits)) else none

/-- The character that a number of digits names. It may be no surrogate, and of the characters below
U+00A0 only three are named so. -/
def namedChar? (count : Nat) (cs : List Char) : Option Char :=
  let value := numeral 16 (cs.take count)
  if count ≤ cs.length ∧ (cs.take count).all isHexDigit ∧ value.isValidChar ∧
      (0xA0 ≤ value ∨ value ∈ [0x24, 0x40, 0x60]) then
    some (Char.ofNat value)
  else none

/-- The escapes of one letter or mark. -/
def simpleEscapes : List (Char × UInt8) :=
  [('\x27', 0x27), ('"', 0x22), ('?', 0x3F), ('\\', 0x5C), ('a', 0x07), ('b', 0x08), ('f', 0x0C),
   ('n', 0x0A), ('r', 0x0D), ('t', 0x09), ('v', 0x0B)]

/-- The escape after a backslash: its bytes, and the number of its characters. A hexadecimal escape
takes all digits that there are, an octal one at most three. -/
def escapeSequence? : List Char → Option (List UInt8 × Nat)
  | [] => none
  | 'x' :: cs =>
    (byte? 16 (cs.takeWhile isHexDigit)).map fun byte =>
      ([byte], (cs.takeWhile isHexDigit).length + 1)
  | 'u' :: cs => (namedChar? 4 cs).map fun c => (String.utf8EncodeChar c, 5)
  | 'U' :: cs => (namedChar? 8 cs).map fun c => (String.utf8EncodeChar c, 9)
  | c :: cs =>
    if isOctalDigit c then
      let digits := ((c :: cs).take 3).takeWhile isOctalDigit
      (byte? 8 digits).map fun byte => ([byte], digits.length)
    else (simpleEscapes.lookup c).map fun byte => ([byte], 1)

/-! ### The bytes of a literal -/

/-- The bytes of the characters after the first `skip`, which belong to the escape before them. -/
def bytesFrom : Nat → List Char → Option (List UInt8)
  | _, [] => some []
  | skip + 1, _ :: cs => bytesFrom skip cs
  | 0, c :: cs =>
    if c = '\\' then
      (escapeSequence? cs).bind fun escape => (bytesFrom escape.2 cs).map (escape.1 ++ ·)
    else (bytesFrom 0 cs).map (String.utf8EncodeChar c ++ ·)

/-- **The bytes that a string literal denotes**; `none` if the source is no string literal, or one
with an escape that has no meaning. -/
def denoted? (source : List Char) : Option (List UInt8) :=
  match terminals source with
  | some [.text spelled] => bytesFrom 0 spelled
  | _ => none

theorem bytesFrom_eq_drop (skip : Nat) (cs : List Char) :
    bytesFrom skip cs = bytesFrom 0 (cs.drop skip) :=
  Text.scan_eq_drop (fun _ => by rw [bytesFrom, bytesFrom]) (fun _ _ _ => by rw [bytesFrom]) skip cs

/-- A character that is not escaped stands for its own bytes. -/
theorem bytesFrom_plain {c : Char} (noEscape : c ≠ '\\') (rest : List Char) :
    bytesFrom 0 (c :: rest) = (bytesFrom 0 rest).map (String.utf8EncodeChar c ++ ·) := by
  rw [bytesFrom, if_neg noEscape]

/-- An escape stands for its bytes, and the rest is read behind it. -/
theorem bytesFrom_escape {spelled rest : List Char} {bytes : List UInt8}
    (read : escapeSequence? (spelled ++ rest) = some (bytes, spelled.length)) :
    bytesFrom 0 ('\\' :: (spelled ++ rest)) = (bytesFrom 0 rest).map (bytes ++ ·) := by
  rw [bytesFrom, if_pos rfl, read, Option.bind_some, bytesFrom_eq_drop, List.drop_left]

/-! ### Spelled characters -/

/-- Whether a character is spelled by its number: it is a control character with no escape of its
own. -/
def isHexEscaped (c : Char) : Bool :=
  isControl c && c != '\n' && c != '\t' && c != '\r'

theorem isHexDigit_hexDigit : ∀ n < 16, isHexDigit (hexDigit n) = true := by
  decide

theorem hexValue_hexDigit : ∀ n < 16, Json.hexValue (hexDigit n) = some n := by
  decide

/-- Only control characters are written in hexadecimal. -/
theorem isControl_of_isHexEscaped {c : Char} (escaped : isHexEscaped c) : isControl c := by
  simp only [isHexEscaped, Bool.and_eq_true] at escaped
  exact escaped.1.1.1

/-- The spelling of a character by its number. -/
theorem escapeChar_of_isHexEscaped {c : Char} (escaped : isHexEscaped c) :
    escapeChar c = ['\\', 'x', hexDigit (c.toNat / 16), hexDigit (c.toNat % 16)] := by
  simp only [isHexEscaped, Bool.and_eq_true, bne_iff_ne] at escaped
  obtain ⟨⟨⟨control, notEnd⟩, notTab⟩, notReturn⟩ := escaped
  have notBackslash : c ≠ '\\' := by
    rintro rfl
    exact absurd control (by decide)
  have notQuote : c ≠ '"' := by
    rintro rfl
    exact absurd control (by decide)
  simp [escapeChar, notBackslash, notQuote, notEnd, notTab, notReturn, control]

/-- The spelling of the others: a letter or mark after a backslash, or the character itself. -/
theorem escapeChar_of_plain {c : Char} (plain : isHexEscaped c = false) :
    (∃ letter, escapeChar c = ['\\', letter] ∧ isAscii c ∧ isHexDigit c = false ∧
      ∀ rest, escapeSequence? (letter :: rest) = some ([UInt8.ofNat c.toNat], 1)) ∨
    (escapeChar c = [c] ∧ c ≠ '\\' ∧ isControl c = false) := by
  by_cases backslash : c = '\\'
  · subst backslash
    exact .inl ⟨'\\', by decide, by decide, by decide, fun rest => rfl⟩
  by_cases quote : c = '"'
  · subst quote
    exact .inl ⟨'"', by decide, by decide, by decide, fun rest => rfl⟩
  by_cases newLine : c = '\n'
  · subst newLine
    exact .inl ⟨'n', by decide, by decide, by decide, fun rest => rfl⟩
  by_cases tab : c = '\t'
  · subst tab
    exact .inl ⟨'t', by decide, by decide, by decide, fun rest => rfl⟩
  by_cases carriage : c = '\r'
  · subst carriage
    exact .inl ⟨'r', by decide, by decide, by decide, fun rest => rfl⟩
  have noControl : isControl c = false := by
    simpa [isHexEscaped, newLine, tab, carriage] using plain
  refine .inr ⟨?_, backslash, noControl⟩
  simp [escapeChar, backslash, quote, newLine, tab, carriage, noControl]

theorem isAscii_of_isControl_of_plain {c : Char} (plain : isHexEscaped c = false)
    (control : isControl c) : isAscii c := by
  rcases escapeChar_of_plain plain with ⟨letter, -, ascii, -⟩ | ⟨-, -, noControl⟩
  · exact ascii
  · rw [noControl] at control
    cases control

theorem isHexDigit_of_isControl {c : Char} (control : isControl c) : isHexDigit c = false := by
  have range := (isControl_iff c).mp control
  have noDigit : c.isDigit = false := by
    rw [← Bool.not_eq_true, isDigit_iff]
    omega
  have noLower : ¬ ('a' ≤ c ∧ c ≤ 'f') := by
    rintro ⟨low, high⟩
    have : 97 ≤ c.toNat := low
    have : c.toNat ≤ 102 := high
    omega
  have noUpper : ¬ ('A' ≤ c ∧ c ≤ 'F') := by
    rintro ⟨low, high⟩
    have : 65 ≤ c.toNat := low
    have : c.toNat ≤ 70 := high
    omega
  simp [isHexDigit, Json.hexValue, noDigit, noLower, noUpper]

/-- A hexadecimal digit is spelled as it is, and no other spelling starts with one. -/
theorem escapeChar_digit (c : Char) :
    (isHexDigit c = true ∧ escapeChar c = [c]) ∨
      (isHexDigit c = false ∧ ∃ d more, escapeChar c = d :: more ∧ isHexDigit d = false) := by
  cases escaped : isHexEscaped c with
  | true =>
      refine .inr ⟨isHexDigit_of_isControl (isControl_of_isHexEscaped escaped), ?_⟩
      exact ⟨_, _, escapeChar_of_isHexEscaped escaped, by decide⟩
  | false =>
      rcases escapeChar_of_plain escaped with ⟨letter, spelled, -, noDigit, -⟩ | ⟨spelled, -⟩
      · exact .inr ⟨noDigit, _, _, spelled, by decide⟩
      · cases digit : isHexDigit c with
        | true => exact .inl ⟨rfl, spelled⟩
        | false => exact .inr ⟨rfl, _, _, spelled, digit⟩

/-- Escaping keeps the digits at the start of a text, which an escape before it would take. -/
theorem takeWhile_flatMap_escapeChar (cs : List Char) :
    (cs.flatMap escapeChar).takeWhile isHexDigit = cs.takeWhile isHexDigit := by
  induction cs with
  | nil => rfl
  | cons c cs ih =>
      rcases escapeChar_digit c with ⟨digit, spelled⟩ | ⟨other, d, more, spelled, noDigit⟩
      · simp [List.flatMap_cons, spelled, digit, ih]
      · simp [List.flatMap_cons, spelled, other, noDigit]

theorem dropWhile_flatMap_escapeChar (cs : List Char) :
    (cs.flatMap escapeChar).dropWhile isHexDigit = (cs.dropWhile isHexDigit).flatMap escapeChar := by
  induction cs with
  | nil => rfl
  | cons c cs ih =>
      rcases escapeChar_digit c with ⟨digit, spelled⟩ | ⟨other, d, more, spelled, noDigit⟩
      · simp [List.flatMap_cons, spelled, digit, ih]
      · simp [List.flatMap_cons, spelled, other, noDigit]

/-! ### What a text is read as -/

/-- The bytes that the spelling of a text denotes. -/
def spelledBytes? (cs : List Char) : Option (List UInt8) :=
  bytesFrom 0 (cs.flatMap escapeChar)

/-- **A character that is not spelled by its number** stands for its bytes. -/
theorem spelledBytes?_cons_of_plain {c : Char} (plain : isHexEscaped c = false) (cs : List Char) :
    spelledBytes? (c :: cs) = (spelledBytes? cs).map (String.utf8EncodeChar c ++ ·) := by
  rw [spelledBytes?, List.flatMap_cons]
  rcases escapeChar_of_plain plain with ⟨letter, spelled, ascii, -, read⟩ | ⟨spelled, noEscape, -⟩
  · rw [spelled, encode_of_isAscii ascii]
    exact @bytesFrom_escape [letter] _ _ (read _)
  · rw [spelled]
    exact bytesFrom_plain noEscape _

/-- **A character that is spelled by its number** stands for one byte, together with the hexadecimal
digits after it. -/
theorem spelledBytes?_cons_of_isHexEscaped {c : Char} (escaped : isHexEscaped c) (cs : List Char) :
    spelledBytes? (c :: cs) =
      (byte? 16 (hexDigit (c.toNat / 16) :: hexDigit (c.toNat % 16) :: cs.takeWhile isHexDigit)).bind
        fun byte => (spelledBytes? (cs.dropWhile isHexDigit)).map (byte :: ·) := by
  have range := (isControl_iff c).mp (isControl_of_isHexEscaped escaped)
  generalize isDigits : hexDigit (c.toNat / 16) :: hexDigit (c.toNat % 16) ::
    cs.takeWhile isHexDigit = digits
  have spelled : (c :: cs).flatMap escapeChar =
      '\\' :: ('x' :: digits ++ (cs.dropWhile isHexDigit).flatMap escapeChar) := by
    rw [List.flatMap_cons, escapeChar_of_isHexEscaped escaped, ← isDigits,
      ← takeWhile_flatMap_escapeChar, ← dropWhile_flatMap_escapeChar]
    simp
  have taken : (digits ++ (cs.dropWhile isHexDigit).flatMap escapeChar).takeWhile isHexDigit =
      digits := by
    rw [← isDigits, ← takeWhile_flatMap_escapeChar cs, ← dropWhile_flatMap_escapeChar cs]
    simp [isHexDigit_hexDigit (c.toNat / 16) (by omega), isHexDigit_hexDigit (c.toNat % 16) (by omega)]
  have read : escapeSequence? ('x' :: digits ++ (cs.dropWhile isHexDigit).flatMap escapeChar) =
      (byte? 16 digits).map fun byte => ([byte], ('x' :: digits).length) := by
    rw [List.cons_append, escapeSequence?, taken, List.length_cons]
  rw [spelledBytes?, spelled]
  cases isByte : byte? 16 digits with
  | none =>
      rw [isByte] at read
      rw [bytesFrom, if_pos rfl, read]
      rfl
  | some byte =>
      rw [isByte] at read
      exact bytesFrom_escape read

/-- Digits are single bytes. -/
theorem byteSize_takeWhile_dropWhile (cs : List Char) :
    (cs.takeWhile isHexDigit).length + byteSize (cs.dropWhile isHexDigit) ≤ byteSize cs := by
  conv_rhs => rw [← List.takeWhile_append_dropWhile (p := isHexDigit) (l := cs), byteSize_append]
  exact Nat.add_le_add_right (length_le_byteSize _) _

theorem dropWhile_of_takeWhile_nil {cs : List Char} (noneTaken : cs.takeWhile isHexDigit = []) :
    cs.dropWhile isHexDigit = cs := by
  conv_rhs => rw [← List.takeWhile_append_dropWhile (p := isHexDigit) (l := cs), noneTaken]
  rfl

/-- A text is never read as more bytes than it has. An escape goes on behind the digits that it takes, so
this is by induction on the length. -/
theorem length_le_of_spelledBytes {cs : List Char} {bytes : List UInt8}
    (denoted : spelledBytes? cs = some bytes) : bytes.length ≤ byteSize cs := by
  induction size : cs.length using Nat.strongRecOn generalizing cs bytes with
  | _ size ih =>
      cases cs with
      | nil =>
          cases denoted
          exact Nat.zero_le _
      | cons c cs =>
          cases escaped : isHexEscaped c with
          | false =>
              rw [spelledBytes?_cons_of_plain escaped] at denoted
              obtain ⟨later, isLater, rfl⟩ := Option.map_eq_some_iff.mp denoted
              have shorter := ih cs.length (by simp [← size]) isLater rfl
              rw [List.length_append, String.length_utf8EncodeChar, byteSize]
              omega
          | true =>
              rw [spelledBytes?_cons_of_isHexEscaped escaped] at denoted
              obtain ⟨byte, -, isRest⟩ := Option.bind_eq_some_iff.mp denoted
              obtain ⟨later, isLater, rfl⟩ := Option.map_eq_some_iff.mp isRest
              have rest : (cs.dropWhile isHexDigit).length ≤ cs.length :=
                (List.dropWhile_sublist _).length_le
              have shorter := ih _ (by simp [← size]; omega) isLater rfl
              have whole := byteSize_takeWhile_dropWhile cs
              have positive := Char.utf8Size_pos c
              rw [List.length_cons, byteSize]
              omega

/-! ### Faithful spellings -/

/-- **A text whose spelling is read as it was meant**: its control characters are ASCII, and no
hexadecimal digit follows one that is spelled by its number. -/
structure SpelledFaithfully (cs : List Char) : Prop where
  ascii : ∀ c ∈ cs, isControl c → isAscii c
  apart : cs.IsChain fun c d => isHexEscaped c → isHexDigit d = false

/-- **When a text is spelled faithfully**, character by character: no digit follows a character in
hexadecimal. -/
theorem spelledFaithfully_cons_iff {c : Char} {cs : List Char} :
    SpelledFaithfully (c :: cs) ↔
      (isHexEscaped c → isAscii c ∧ cs.takeWhile isHexDigit = []) ∧ SpelledFaithfully cs := by
  have noDigit : cs.takeWhile isHexDigit = [] ↔ ∀ d ∈ cs.head?, isHexDigit d = false := by
    cases cs with
    | nil => simp
    | cons d cs => cases digit : isHexDigit d <;> simp [digit]
  rw [noDigit]
  constructor
  · intro faithful
    obtain ⟨ascii, others⟩ := List.forall_mem_cons.mp faithful.ascii
    obtain ⟨apart, othersApart⟩ := List.isChain_cons.mp faithful.apart
    refine ⟨fun escaped => ⟨ascii (isControl_of_isHexEscaped escaped), ?_⟩, others, othersApart⟩
    exact fun d next => apart d next escaped
  · rintro ⟨first, others⟩
    refine ⟨List.forall_mem_cons.mpr ⟨fun control => ?_, others.ascii⟩,
      List.isChain_cons.mpr ⟨fun d next escaped => (first escaped).2 d next, others.apart⟩⟩
    cases escaped : isHexEscaped c with
    | true => exact (first escaped).1
    | false => exact isAscii_of_isControl_of_plain escaped control

/-- Two digits are one byte. -/
theorem byte?_two_digits {n : Nat} (fits : n < 256) :
    byte? 16 [hexDigit (n / 16), hexDigit (n % 16)] = some (UInt8.ofNat n) := by
  have value : numeral 16 [hexDigit (n / 16), hexDigit (n % 16)] = n := by
    simp only [numeral, List.foldl_cons, List.foldl_nil, hexValue_hexDigit (n / 16) (by omega),
      hexValue_hexDigit (n % 16) (by omega), Option.getD_some]
    omega
  rw [byte?, value, if_pos ⟨List.cons_ne_nil _ _, fits⟩]

/-- **A faithful spelling denotes the bytes of the text.** -/
theorem spelledBytes?_of_spelledFaithfully {cs : List Char} (faithful : SpelledFaithfully cs) :
    spelledBytes? cs = some (utf8 cs) := by
  induction cs with
  | nil => rfl
  | cons c cs ih =>
      obtain ⟨first, others⟩ := spelledFaithfully_cons_iff.mp faithful
      rw [utf8_cons]
      cases escaped : isHexEscaped c with
      | false =>
          rw [spelledBytes?_cons_of_plain escaped, ih others]
          rfl
      | true =>
          obtain ⟨ascii, noneTaken⟩ := first escaped
          have range := (isControl_iff c).mp (isControl_of_isHexEscaped escaped)
          rw [spelledBytes?_cons_of_isHexEscaped escaped, noneTaken, byte?_two_digits (by omega),
            dropWhile_of_takeWhile_nil noneTaken, ih others, encode_of_isAscii ascii]
          rfl

/-- A text that is read as its own bytes is as long as these, so that no digit is taken and no
character of more than one byte is spelled by its number. -/
theorem spelledFaithfully_of_spelledBytes {cs : List Char} (own : spelledBytes? cs = some (utf8 cs)) :
    SpelledFaithfully cs := by
  induction cs with
  | nil => exact ⟨List.forall_mem_nil _, .nil⟩
  | cons c cs ih =>
      rw [utf8_cons] at own
      cases escaped : isHexEscaped c with
      | false =>
          rw [spelledBytes?_cons_of_plain escaped] at own
          obtain ⟨later, isLater, same⟩ := Option.map_eq_some_iff.mp own
          rw [List.append_cancel_left same] at isLater
          exact spelledFaithfully_cons_iff.mpr ⟨by simp [escaped], ih isLater⟩
      | true =>
          rw [spelledBytes?_cons_of_isHexEscaped escaped] at own
          obtain ⟨byte, -, isRest⟩ := Option.bind_eq_some_iff.mp own
          obtain ⟨later, isLater, same⟩ := Option.map_eq_some_iff.mp isRest
          have sizes := congrArg List.length same
          rw [List.length_cons, List.length_append, String.length_utf8EncodeChar, length_utf8] at sizes
          have shorter := length_le_of_spelledBytes isLater
          have whole := byteSize_takeWhile_dropWhile cs
          have positive := Char.utf8Size_pos c
          have noneTaken : cs.takeWhile isHexDigit = [] :=
            List.eq_nil_of_length_eq_zero (by omega)
          have ascii : isAscii c := isAscii_of_utf8Size (by omega)
          rw [dropWhile_of_takeWhile_nil noneTaken] at isLater
          rw [encode_of_isAscii ascii] at same
          rw [(List.cons.inj same).2] at isLater
          exact spelledFaithfully_cons_iff.mpr ⟨fun _ => ⟨ascii, noneTaken⟩, ih isLater⟩

/-- **Which texts are written as literals of their own bytes.** -/
theorem quoted_denotes_iff (text : String) :
    denoted? (quoted text).toList = some (utf8 text.toList) ↔ SpelledFaithfully text.toList := by
  have literal : denoted? (quoted text).toList = spelledBytes? text.toList := by
    rw [denoted?, (closed_quoted text).terminals_eq, spelledBytes?, escape, String.toList_ofList]
  rw [literal]
  exact ⟨spelledFaithfully_of_spelledBytes, spelledBytes?_of_spelledFaithfully⟩

/-- **Texts that are written as literals of other bytes**: a digit is taken by the escape before it, a
number that fits in no byte, and a control character of two bytes. -/
theorem quoted_denotes_other :
    denoted? (quoted "\x01a").toList = some [0x1A] ∧ utf8 "\x01a".toList = [0x01, 0x61] ∧
    denoted? (quoted "\x01ff").toList = none ∧
    denoted? (quoted "\u0085").toList = some [0x85] ∧ utf8 "\u0085".toList = [0xC2, 0x85] := by
  decide +kernel

end ForeignGlue.CSource
