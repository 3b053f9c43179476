/-
**Quoted texts read back.**

Every character has a spelling between quotes that is read as this character alone, whatever comes
after it (`unitAt_quoteChar`). So a quoted text ends at its closing quote and nowhere before
(`closingQuote_quote`), and it is read as the text it was made from (`unquote_quote`).
-/

import ForeignGlue.Json.Token

namespace ForeignGlue.Json

open ForeignGlue.Source (hexDigit)

/-! ### One character -/

/-- How a character is spelled: by a letter after a backslash, by four hexadecimal digits, or by
itself. -/
inductive Spelling (c : Char) : List Char → Prop
  | escape {letter : Char} (other : letter ≠ 'u') (means : shortEscape letter = some c.toNat) :
      Spelling c ['\\', letter]
  | unit {high low : Char} (means : hexUnit '0' '0' high low = some c.toNat) :
      Spelling c ['\\', 'u', '0', '0', high, low]
  | itself (noBackslash : c ≠ '\\') (noQuote : c ≠ '"') (noControl : 0x20 ≤ c.toNat) :
      Spelling c [c]

theorem spelling_quoteChar (c : Char) : Spelling c (quoteChar c) := by
  have digits : ∀ n < 0x20, hexUnit '0' '0' (hexDigit (n / 16)) (hexDigit (n % 16)) = some n := by
    decide
  fun_cases quoteChar c with
  | case1 same | case2 _ same | case3 _ _ same | case4 _ _ _ same | case5 _ _ _ _ same
  | case6 _ _ _ _ _ same | case7 _ _ _ _ _ _ same =>
      rw [beq_iff_eq.mp same]
      exact .escape (by decide) rfl
  | case8 _ _ _ _ _ _ _ control => exact .unit (digits c.toNat control)
  | case9 noQuote noBackslash _ _ _ _ _ printed =>
      exact .itself (by simpa using noBackslash) (by simpa using noQuote) (Nat.not_lt.mp printed)

variable {c : Char} {spelled : List Char}

/-- A spelled character is read back, whatever follows it. -/
theorem Spelling.unitAt_append (spelling : Spelling c spelled) (rest : List Char) :
    unitAt (spelled ++ rest) = some (c.toNat, spelled.length) := by
  cases spelling with
  | escape other means =>
      simp only [List.cons_append, List.nil_append, unitAt.eq_def, beq_self_eq_true, if_true]
      split
      · next same => exact absurd (List.cons.inj same).1 other
      · next same =>
          rw [← (List.cons.inj same).1, means]
          rfl
      · next same => cases same
  | unit means =>
      show (hexUnit '0' '0' _ _).map (·, 6) = _
      rw [means]
      rfl
  | itself noBackslash noQuote noControl =>
      rw [List.singleton_append, unitAt.eq_def]
      dsimp only
      rw [if_neg (by simpa using noBackslash), if_neg (by simpa using ⟨noQuote, noControl⟩)]
      rfl

theorem Spelling.exists_cons (spelling : Spelling c spelled) :
    ∃ first more, spelled = first :: more ∧ first ≠ '"' := by
  cases spelling with
  | escape => exact ⟨_, _, rfl, by decide⟩
  | unit => exact ⟨_, _, rfl, by decide⟩
  | itself _ noQuote => exact ⟨_, _, rfl, noQuote⟩

/-! ### Texts -/

theorem unitsFrom_eq_drop (skip : Nat) (cs : List Char) :
    unitsFrom skip cs = unitsFrom 0 (cs.drop skip) :=
  Text.scan_eq_drop (fun _ => by rw [unitsFrom, unitsFrom]) (fun _ _ _ => by rw [unitsFrom]) skip cs

theorem unitsFrom_quoteChar (c : Char) (rest : List Char) :
    unitsFrom 0 (quoteChar c ++ rest) = (unitsFrom 0 rest).map (c.toNat :: ·) := by
  obtain ⟨first, more, spelled, -⟩ := (spelling_quoteChar c).exists_cons
  have read := (spelling_quoteChar c).unitAt_append rest
  rw [spelled, List.cons_append] at read ⊢
  rw [unitsFrom, read]
  show (unitsFrom more.length (more ++ rest)).map _ = _
  rw [unitsFrom_eq_drop, List.drop_left]

/-- A character is no half of a pair. -/
theorem pairUnits_cons (c : Char) (units : List Nat) :
    pairUnits (c.toNat :: units) = (pairUnits units).map (c :: ·) := by
  have valid : c.toNat < 0xD800 ∨ 0xDFFF < c.toNat := by
    rcases c.valid with below | above
    · exact .inl below
    · exact .inr above.1
  have noHigh : isHighSurrogate c.toNat = false := by
    simp only [isHighSurrogate, Bool.and_eq_false_iff, decide_eq_false_iff_not]
    omega
  have noLow : isLowSurrogate c.toNat = false := by
    simp only [isLowSurrogate, Bool.and_eq_false_iff, decide_eq_false_iff_not]
    omega
  rw [pairUnits.eq_def]
  simp only [noHigh, noLow, Bool.false_eq_true, if_false, Char.ofNat_toNat]

/-- **A quoted text is read as the text.** -/
theorem unquote_quote (text : String) : unquote (quote text) = some text := by
  have units (cs : List Char) :
      unitsFrom 0 (cs.flatMap quoteChar) = some (cs.map Char.toNat) := by
    induction cs with
    | nil => rfl
    | cons c cs ih => rw [List.flatMap_cons, unitsFrom_quoteChar, ih]; rfl
  have paired (cs : List Char) : pairUnits (cs.map Char.toNat) = some cs := by
    induction cs with
    | nil => rfl
    | cons c cs ih => rw [List.map_cons, pairUnits_cons, ih]; rfl
  simp [unquote, quote, units, paired]

/-! ### The closing quote -/

theorem closingQuote_eq_drop {count skip : Nat} {cs : List Char} (inside : skip ≤ cs.length) :
    closingQuote count skip cs = closingQuote (count + skip) 0 (cs.drop skip) := by
  induction cs generalizing count skip with
  | nil =>
      obtain rfl : skip = 0 := Nat.le_zero.mp inside
      rfl
  | cons c cs ih =>
      cases skip with
      | zero => rfl
      | succ skip =>
          rw [closingQuote, ih (Nat.le_of_succ_le_succ inside), List.drop_succ_cons, Nat.add_assoc,
            Nat.add_comm 1]

theorem closingQuote_quoteChar (count : Nat) (c : Char) (rest : List Char) :
    closingQuote count 0 (quoteChar c ++ rest) =
      closingQuote (count + (quoteChar c).length) 0 rest := by
  obtain ⟨first, more, spelled, noQuote⟩ := (spelling_quoteChar c).exists_cons
  have read := (spelling_quoteChar c).unitAt_append rest
  rw [spelled, List.cons_append] at read ⊢
  rw [closingQuote, if_neg (by simpa using noQuote), read]
  show closingQuote (count + 1) more.length (more ++ rest) = _
  rw [closingQuote_eq_drop (by simp), List.drop_left, List.length_cons, Nat.add_assoc,
    Nat.add_comm 1]

/-- **A quoted text ends at its closing quote.** -/
theorem closingQuote_quote (count : Nat) (text : String) (rest : List Char) :
    closingQuote count 0 (quote text ++ '"' :: rest) = some (count + (quote text).length) := by
  have run (cs : List Char) : ∀ count, closingQuote count 0 (cs.flatMap quoteChar ++ '"' :: rest) =
      some (count + (cs.flatMap quoteChar).length) := by
    induction cs with
    | nil => exact fun count => rfl
    | cons c cs ih =>
        intro count
        rw [List.flatMap_cons, List.append_assoc, closingQuote_quoteChar, ih, List.length_append,
          Nat.add_assoc]
  exact run text.toList count

end ForeignGlue.Json
