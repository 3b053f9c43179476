/-
**Text as bytes.**

The bytes of a text in UTF-8. ASCII characters are their own bytes, and no other character has a byte
of that range. So a byte of that range is a whole character wherever it stands
(`exists_char_of_byte`), and a text that is cut before one is not cut inside a character.
-/

import ForeignGlue.Text.Basic

namespace ForeignGlue.Text

/-- The bytes of characters in UTF-8. -/
def utf8 (cs : List Char) : List UInt8 :=
  cs.flatMap String.utf8EncodeChar

theorem utf8_cons (c : Char) (cs : List Char) : utf8 (c :: cs) = String.utf8EncodeChar c ++ utf8 cs :=
  List.flatMap_cons

theorem utf8_append (cs ds : List Char) : utf8 (cs ++ ds) = utf8 cs ++ utf8 ds :=
  List.flatMap_append

theorem length_utf8 (cs : List Char) : (utf8 cs).length = byteSize cs := by
  induction cs with
  | nil => rfl
  | cons c cs ih => rw [utf8_cons, List.length_append, String.length_utf8EncodeChar, ih, byteSize]

theorem byteSize_pos {cs : List Char} (filled : cs ≠ []) : 0 < byteSize cs :=
  Nat.lt_of_lt_of_le (List.length_pos_iff.mpr filled) (length_le_byteSize cs)

theorem isAscii_of_utf8Size {c : Char} (single : c.utf8Size = 1) : isAscii c := by
  have small := Char.utf8Size_eq_one_iff.mp single
  rw [UInt32.le_iff_toNat_le] at small
  exact decide_eq_true (Nat.lt_succ_of_le small)

theorem encode_of_isAscii {c : Char} (ascii : isAscii c) :
    String.utf8EncodeChar c = [UInt8.ofNat c.toNat] := by
  have small : c.toNat ≤ 127 := Nat.le_of_lt_succ (of_decide_eq_true ascii)
  rw [String.utf8EncodeChar]
  exact if_pos small

/-- The bytes of a character that is not ASCII: each has some of its bits below a mark, the least of
which is 128. -/
theorem le_of_mem_encode {c : Char} (other : isAscii c = false) :
    ∀ byte ∈ String.utf8EncodeChar c, 128 ≤ byte.toNat := by
  have large : ¬ c.val.toNat ≤ 127 := fun small =>
    of_decide_eq_false other (Nat.lt_succ_of_le small)
  have marked (bits mark : Nat) (isMark : 128 ≤ mark) (fits : bits + mark < 256) :
      128 ≤ (UInt8.ofNat (bits + mark)).toNat := by
    rw [UInt8.toNat_ofNat', Nat.mod_eq_of_lt fits]
    omega
  rw [String.utf8EncodeChar]
  simp only [if_neg large]
  split
  · simp only [List.forall_mem_cons, List.not_mem_nil, false_imp_iff, implies_true, and_true]
    exact ⟨marked _ _ (by decide) (by omega), marked _ _ (by decide) (by omega)⟩
  · split
    · simp only [List.forall_mem_cons, List.not_mem_nil, false_imp_iff, implies_true, and_true]
      exact ⟨marked _ _ (by decide) (by omega), marked _ _ (by decide) (by omega),
        marked _ _ (by decide) (by omega)⟩
    · simp only [List.forall_mem_cons, List.not_mem_nil, false_imp_iff, implies_true, and_true]
      exact ⟨marked _ _ (by decide) (by omega), marked _ _ (by decide) (by omega),
        marked _ _ (by decide) (by omega), marked _ _ (by decide) (by omega)⟩

/-- **A byte of the ASCII range is a whole character.** -/
theorem exists_char_of_byte {cs : List Char} {place : Nat} {byte : UInt8}
    (found : (utf8 cs)[place]? = some byte) (small : byte.toNat < 128) :
    ∃ before c after, cs = before ++ c :: after ∧ byteSize before = place ∧
      c.toNat = byte.toNat := by
  induction cs generalizing place with
  | nil => cases found
  | cons c cs ih =>
      rw [utf8_cons, List.getElem?_append, String.length_utf8EncodeChar] at found
      split at found
      · next inside =>
          cases ascii : isAscii c with
          | false => exact absurd (le_of_mem_encode ascii byte (List.mem_of_getElem? found)) (by omega)
          | true =>
              have code : c.toNat < 128 := of_decide_eq_true ascii
              rw [encode_of_isAscii ascii] at found
              obtain ⟨rfl, rfl⟩ : place = 0 ∧ UInt8.ofNat c.toNat = byte := by
                simpa [List.getElem?_singleton] using found
              refine ⟨[], c, cs, rfl, rfl, ?_⟩
              rw [UInt8.toNat_ofNat', Nat.mod_eq_of_lt (by omega)]
      · next beyond =>
          obtain ⟨before, d, after, rfl, size, code⟩ := ih found
          refine ⟨c :: before, d, after, rfl, ?_, code⟩
          rw [byteSize, size]
          omega

end ForeignGlue.Text
