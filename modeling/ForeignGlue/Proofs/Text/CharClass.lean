/-
**Character classes by code points.**

The classes of names and digits as ranges of code points, and what follows for characters that are in
one class and not in another.
-/

import ForeignGlue.Text.CharClass

namespace ForeignGlue.Text

/-- A property that is checked member by member holds of every member. For a property of characters
`decide` alone may go through all of them. -/
theorem forall_mem_of_all {α : Type} {property : α → Prop} [DecidablePred property]
    {members : List α} (checked : (members.all fun member => decide (property member)) = true) :
    ∀ member ∈ members, property member := by
  simpa only [List.all_eq_true, decide_eq_true_eq] using checked

theorem isDigit_iff (c : Char) : c.isDigit ↔ 48 ≤ c.toNat ∧ c.toNat ≤ 57 := by
  simp only [Char.isDigit, Bool.and_eq_true, decide_eq_true_eq, UInt32.le_iff_toNat_le, ge_iff_le]
  exact Iff.rfl

theorem isAlpha_iff (c : Char) :
    c.isAlpha ↔ (65 ≤ c.toNat ∧ c.toNat ≤ 90) ∨ (97 ≤ c.toNat ∧ c.toNat ≤ 122) := by
  have letter : c.isAlpha = (c.isUpper || c.isLower) := rfl
  have upper : c.isUpper = decide ('A'.val ≤ c.val ∧ c.val ≤ 'Z'.val) := rfl
  have lower : c.isLower = (decide ('a'.val ≤ c.val) && decide (c.val ≤ 'z'.val)) := rfl
  simp only [letter, upper, lower, Bool.or_eq_true, Bool.and_eq_true, decide_eq_true_eq,
    UInt32.le_iff_toNat_le]
  exact Iff.rfl

theorem isControl_iff (c : Char) :
    isControl c ↔ c.toNat ≤ 31 ∨ (127 ≤ c.toNat ∧ c.toNat ≤ 159) := by
  simp only [isControl, Bool.or_eq_true, Bool.and_eq_true, decide_eq_true_eq]

theorem isNameStart_iff (c : Char) :
    isNameStart c ↔
      ((65 ≤ c.toNat ∧ c.toNat ≤ 90) ∨ (97 ≤ c.toNat ∧ c.toNat ≤ 122)) ∨ c = '_' := by
  rw [isNameStart, Bool.or_eq_true, isAlpha_iff, beq_iff_eq]

theorem isNameChar_iff (c : Char) : isNameChar c ↔ isNameStart c ∨ c.isDigit := by
  simp only [isNameChar, isNameStart, Char.isAlphanum, Bool.or_eq_true]
  exact or_right_comm

theorem isNameChar_of_isNameStart {c : Char} (start : isNameStart c) : isNameChar c :=
  (isNameChar_iff c).mpr (.inl start)

theorem isNameChar_of_isDigit {c : Char} (digit : c.isDigit) : isNameChar c :=
  (isNameChar_iff c).mpr (.inr digit)

theorem isAscii_of_isNameChar {c : Char} (inside : isNameChar c) : isAscii c := by
  rw [isNameChar_iff, isNameStart_iff, isDigit_iff] at inside
  rcases inside with (range | rfl) | range
  · exact decide_eq_true (by omega)
  · decide
  · exact decide_eq_true (by omega)

/-- A name starts with no digit. -/
theorem not_isDigit_of_isNameStart {c : Char} (start : isNameStart c) : c.isDigit = false := by
  rw [← Bool.not_eq_true, isDigit_iff]
  rcases (isNameStart_iff c).mp start with range | rfl
  · omega
  · decide

/-- A blank is no character of a name. -/
theorem not_isNameChar_of_isBlank {c : Char} (blank : isBlank c) : isNameChar c = false := by
  rw [← Bool.not_eq_true, isNameChar_iff, isNameStart_iff, isDigit_iff]
  rintro ((range | rfl) | range)
  · simp only [isBlank, Bool.or_eq_true, Bool.and_eq_true, decide_eq_true_eq, beq_iff_eq] at blank
    omega
  · exact absurd blank (by decide)
  · simp only [isBlank, Bool.or_eq_true, Bool.and_eq_true, decide_eq_true_eq, beq_iff_eq] at blank
    omega

/-- Lower case changes letters only. -/
theorem toLower_of_not_isNameStart {c : Char} (other : isNameStart c = false) : c.toLower = c := by
  rw [← Bool.not_eq_true, isNameStart_iff] at other
  refine dif_neg ?_
  rintro ⟨low, high⟩
  have low : 65 ≤ c.toNat := UInt32.le_iff_toNat_le.mp low
  have high : c.toNat ≤ 90 := UInt32.le_iff_toNat_le.mp high
  exact other (.inl (.inl ⟨low, high⟩))

theorem isNameStart_toLower {c : Char} (start : isNameStart c) : isNameStart c.toLower := by
  have known : ∀ code < 128, isNameStart (Char.ofNat code) → isNameStart (Char.ofNat code).toLower := by
    decide
  have small : c.toNat < 128 := by
    rcases (isNameStart_iff c).mp start with range | rfl
    · omega
    · decide
  have here := known c.toNat small
  rw [Char.ofNat_toNat] at here
  exact here start

theorem toLower_toLower (c : Char) : c.toLower.toLower = c.toLower := by
  cases isStart : isNameStart c with
  | false =>
      rw [toLower_of_not_isNameStart isStart]
      exact toLower_of_not_isNameStart isStart
  | true =>
      have known : ∀ code < 128, (Char.ofNat code).toLower.toLower = (Char.ofNat code).toLower := by
        decide
      have here := known c.toNat (of_decide_eq_true (isAscii_of_isNameChar
        (isNameChar_of_isNameStart isStart)))
      rw [Char.ofNat_toNat] at here
      exact here

theorem isNameChar_toLower {c : Char} (inside : isNameChar c) : isNameChar c.toLower := by
  cases isStart : isNameStart c with
  | true => exact isNameChar_of_isNameStart (isNameStart_toLower isStart)
  | false =>
      rw [toLower_of_not_isNameStart isStart]
      exact inside

end ForeignGlue.Text
