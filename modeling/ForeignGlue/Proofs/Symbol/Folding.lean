/-
**Folded names.**

A name that is too long for a linker keeps as many of its first characters as fit into fifteen bytes, and
gets sixteen letters from its digest.

* `isLongestStart_takeBytes`: what is kept is the longest start of whole characters that fits;
* `IsLongestStart.lt_byteSize_add`: it leaves at most three bytes unused, since no character has more
  than four, and `IsLongestStart.byteSize_eq_of_ascii`: none if the bytes up to there are ASCII;
* `exists_parts_of_fold`: the two parts of a folded name;
* `utf8ByteSize_fold_le`: a folded name fits, and so folding it again changes nothing (`fold_fold`).

Of the digest only its length is used.
-/

import ForeignGlue.Proofs.Text.Utf8
import ForeignGlue.Symbol.Basic
import Mathlib.Data.List.Forall2

namespace ForeignGlue.Symbol

open ForeignGlue.Text

/-! ### The kept start -/

/-- **The longest start** of whole characters that has at most `room` bytes. -/
structure IsLongestStart (room : Nat) (start cs : List Char) : Prop where
  starts : start <+: cs
  fits : byteSize start ≤ room
  longest : ∀ other, other <+: cs → byteSize other ≤ room → other <+: start

theorem takeBytes_isStart (room : Nat) (cs : List Char) : takeBytes room cs <+: cs := by
  induction cs generalizing room with
  | nil => exact List.nil_prefix
  | cons c cs ih =>
      rw [takeBytes]
      split
      · exact List.cons_prefix_cons.mpr ⟨rfl, ih _⟩
      · exact List.nil_prefix

theorem byteSize_takeBytes_le (room : Nat) (cs : List Char) : byteSize (takeBytes room cs) ≤ room := by
  induction cs generalizing room with
  | nil => exact Nat.zero_le room
  | cons c cs ih =>
      rw [takeBytes]
      split
      · have later := ih (room - c.utf8Size)
        rw [byteSize]
        omega
      · exact Nat.zero_le room

/-- Every start that fits is part of what is taken. -/
theorem isStart_takeBytes {room : Nat} {start cs : List Char} (starts : start <+: cs)
    (fits : byteSize start ≤ room) : start <+: takeBytes room cs := by
  induction cs generalizing room start with
  | nil => exact starts
  | cons c cs ih =>
      cases start with
      | nil => exact List.nil_prefix
      | cons d start =>
          obtain ⟨rfl, later⟩ := List.cons_prefix_cons.mp starts
          rw [byteSize] at fits
          rw [takeBytes, if_pos (by omega)]
          exact List.cons_prefix_cons.mpr ⟨rfl, ih later (by omega)⟩

/-- **What is taken is the longest start** that fits. -/
theorem isLongestStart_takeBytes (room : Nat) (cs : List Char) :
    IsLongestStart room (takeBytes room cs) cs where
  starts := takeBytes_isStart room cs
  fits := byteSize_takeBytes_le room cs
  longest _ := isStart_takeBytes

namespace IsLongestStart

variable {room : Nat} {start cs : List Char} (isLongest : IsLongestStart room start cs)
include isLongest

/-- The character after it does not fit any more. -/
theorem lt_of_next {c : Char} {rest : List Char} (spelled : cs = start ++ c :: rest) :
    room < byteSize start + c.utf8Size := by
  by_contra fits
  have size : byteSize (start ++ [c]) = byteSize start + c.utf8Size := byteSize_append start [c]
  have more := isLongest.longest (start ++ [c]) ⟨rest, by simp [spelled]⟩ (by omega)
  have longer := more.length_le
  rw [List.length_append, List.length_singleton] at longer
  omega

theorem exists_next (long : room < byteSize cs) : ∃ c rest, cs = start ++ c :: rest := by
  obtain ⟨rest, rfl⟩ := isLongest.starts
  cases rest with
  | nil =>
      rw [List.append_nil] at long
      exact absurd isLongest.fits (Nat.not_le.mpr long)
  | cons c rest => exact ⟨c, rest, rfl⟩

/-- Less than the bytes of one character is left unused. -/
theorem lt_byteSize_add (long : room < byteSize cs) : room < byteSize start + 4 := by
  obtain ⟨c, rest, spelled⟩ := isLongest.exists_next long
  have tooLong := isLongest.lt_of_next spelled
  have size := c.utf8Size_le_four
  omega

/-- Where the first bytes are ASCII, nothing is left unused. The next character starts with such a byte,
so it has no other and fits. -/
theorem byteSize_eq_of_ascii (long : room < byteSize cs)
    (ascii : ∀ byte ∈ (utf8 cs).take room, byte.toNat < 128) : byteSize start = room := by
  obtain ⟨c, rest, spelled⟩ := isLongest.exists_next long
  have tooLong := isLongest.lt_of_next spelled
  refine Nat.le_antisymm isLongest.fits (Nat.le_of_not_lt fun unused => ?_)
  have size := String.length_utf8EncodeChar c
  have isAscii : isAscii c := by
    cases other : isAscii c with
    | true => rfl
    | false =>
        cases encoded : String.utf8EncodeChar c with
        | nil =>
            rw [encoded] at size
            exact absurd size.symm (Nat.ne_of_gt c.utf8Size_pos)
        | cons byte bytes =>
            have first : (utf8 cs)[byteSize start]? = some byte := by
              rw [spelled, utf8_append, ← length_utf8, List.getElem?_append_right (Nat.le_refl _),
                Nat.sub_self, utf8_cons, encoded]
              rfl
            have small := ascii byte (List.mem_of_getElem? ((List.getElem?_take_of_lt unused).trans first))
            have large := le_of_mem_encode other byte (encoded ▸ List.mem_cons_self)
            omega
  rw [encode_of_isAscii isAscii, List.length_singleton] at size
  omega

end IsLongestStart

/-! ### The letters -/

/-- **Letters of a digest**: one for each byte, with the alphabet gone through again and again. -/
def IsSpelling (bytes : List UInt8) (letters : List Char) : Prop :=
  List.Forall₂ (fun byte c => c.isLower = true ∧ c.toNat = 'a'.toNat + byte.toNat % 26) bytes letters

theorem isLower_letter (byte : UInt8) :
    (letter byte).isLower = true ∧ (letter byte).toNat = 'a'.toNat + byte.toNat % 26 := by
  have known : ∀ place < 26, (Char.ofNat (97 + place)).isLower = true ∧
      (Char.ofNat (97 + place)).toNat = 'a'.toNat + place := by
    decide
  exact known _ (Nat.mod_lt _ (by decide))

theorem isSpelling_map_letter (bytes : List UInt8) : IsSpelling bytes (bytes.map letter) := by
  rw [IsSpelling, List.forall₂_map_right_iff, List.forall₂_same]
  exact fun byte _ => isLower_letter byte

/-- A letter has one byte. -/
theorem byteSize_of_isSpelling {bytes : List UInt8} {letters : List Char}
    (spelling : IsSpelling bytes letters) : byteSize letters = bytes.length := by
  induction spelling with
  | nil => rfl
  | @cons byte c bytes cs spelled _ ih =>
      have place : byte.toNat % 26 < 26 := Nat.mod_lt _ (by decide)
      have code : c.toNat = 97 + byte.toNat % 26 := spelled.2
      have ascii : isAscii c := decide_eq_true (by omega)
      have size := String.length_utf8EncodeChar c
      rw [encode_of_isAscii ascii, List.length_singleton] at size
      rw [byteSize, ih, ← size, List.length_cons, Nat.add_comm]

/-! ### Folding -/

variable {name : String}

theorem fold_of_short (short : name.utf8ByteSize ≤ 31) : fold name = name := by
  rw [← byteSize_toList] at short
  exact if_pos short

/-- **The parts of a folded name**: the start of the name that fits into fifteen bytes, and the letters
of its digest. -/
theorem exists_parts_of_fold (long : 31 < name.utf8ByteSize) :
    ∃ kept letters, (fold name).toList = kept ++ letters ∧ IsLongestStart 15 kept name.toList ∧
      IsSpelling (digest (utf8Bytes name)) letters := by
  refine ⟨_, _, ?_, isLongestStart_takeBytes 15 name.toList, isSpelling_map_letter _⟩
  have folded : ¬byteSize name.toList ≤ maxBytes := by
    rw [byteSize_toList]
    exact Nat.not_le.mpr long
  rw [fold, if_neg folded, String.toList_ofList]
  rfl

theorem utf8ByteSize_of_parts {kept letters : List Char} (parts : (fold name).toList = kept ++ letters)
    (spelling : IsSpelling (digest (utf8Bytes name)) letters) :
    (fold name).utf8ByteSize = byteSize kept + 16 := by
  rw [← byteSize_toList, parts, byteSize_append, byteSize_of_isSpelling spelling, length_digest]

/-- **A folded name fits.** -/
theorem utf8ByteSize_fold_le (name : String) : (fold name).utf8ByteSize ≤ 31 := by
  by_cases long : 31 < name.utf8ByteSize
  · obtain ⟨kept, letters, parts, isLongest, spelling⟩ := exists_parts_of_fold long
    have fits := isLongest.fits
    rw [utf8ByteSize_of_parts parts spelling]
    omega
  · have short := Nat.le_of_not_lt long
    rw [fold_of_short short]
    exact short

/-- Folding a name once is enough. -/
theorem fold_fold (name : String) : fold (fold name) = fold name :=
  fold_of_short (utf8ByteSize_fold_le name)

end ForeignGlue.Symbol
