/-
**Texts respelled character by character.**

What goes by a class of characters does not see a respelling that keeps the class:

* `trimChars_map`: such a respelling and trimming may change places;
* `apply_toLower`: lower case keeps every class that has all letters or none, so blanks, digits,
  marks and the characters of names.
-/

import ForeignGlue.Proofs.Text.CharClass
import ForeignGlue.Text.Basic

namespace ForeignGlue.Text

/-! ### Trimming -/

theorem trimChars_map {respell : Char → Char} (keeps : ∀ c, isBlank (respell c) = isBlank c)
    (cs : List Char) : trimChars (cs.map respell) = (trimChars cs).map respell := by
  have same : isBlank ∘ respell = isBlank := funext keeps
  simp only [trimChars, List.dropWhile_map, same, ← List.map_reverse]

theorem mem_dropWhile_isBlank {c : Char} {cs : List Char} (filled : isBlank c = false)
    (member : c ∈ cs) : c ∈ cs.dropWhile isBlank := by
  induction cs with
  | nil => cases member
  | cons d ds ih =>
      rw [List.dropWhile_cons]
      split
      · next blank =>
          rcases List.mem_cons.mp member with rfl | later
          · rw [filled] at blank
            cases blank
          · exact ih later
      · exact member

/-- Trimming takes off blanks only. -/
theorem mem_trimChars {c : Char} {cs : List Char} (filled : isBlank c = false) (member : c ∈ cs) :
    c ∈ trimChars cs := by
  rw [trimChars, List.mem_reverse]
  refine mem_dropWhile_isBlank filled ?_
  rw [List.mem_reverse]
  exact mem_dropWhile_isBlank filled member

/-- A text that starts and ends with characters that are no blanks is trimmed already. -/
theorem trimChars_enclosed {first last : Char} (start : isBlank first = false)
    (stop : isBlank last = false) (cs : List Char) :
    trimChars (first :: (cs ++ [last])) = first :: (cs ++ [last]) := by
  have reversed : (first :: (cs ++ [last])).reverse = last :: (first :: cs).reverse := by
    rw [← List.cons_append, List.reverse_append]
    rfl
  rw [trimChars, List.dropWhile_cons_of_neg (by simp [start]), reversed,
    List.dropWhile_cons_of_neg (by simp [stop]), ← reversed, List.reverse_reverse]

/-! ### Lower case -/

/-- **Lower case keeps what is the same for all letters.** -/
theorem apply_toLower {α : Type} {value : Char → α} {common : α}
    (letters : ∀ c, isNameStart c → value c = common) (c : Char) : value c.toLower = value c := by
  cases isStart : isNameStart c with
  | false => rw [toLower_of_not_isNameStart isStart]
  | true => rw [letters c isStart, letters _ (isNameStart_toLower isStart)]

theorem isNameStart_toLower_eq (c : Char) : isNameStart c.toLower = isNameStart c :=
  apply_toLower (fun _ start => start) c

theorem isNameChar_toLower_eq (c : Char) : isNameChar c.toLower = isNameChar c :=
  apply_toLower (fun _ start => isNameChar_of_isNameStart start) c

theorem isBlank_toLower (c : Char) : isBlank c.toLower = isBlank c := by
  have letters : ∀ letter, isNameStart letter → isBlank letter = false := by
    intro letter start
    rw [← Bool.not_eq_true]
    intro blank
    have inside := isNameChar_of_isNameStart start
    rw [not_isNameChar_of_isBlank blank] at inside
    cases inside
  exact apply_toLower letters c

/-- A character that is no letter is the lower case of itself only. -/
theorem toLower_eq_iff {c mark : Char} (other : isNameStart mark = false) :
    c.toLower = mark ↔ c = mark := by
  constructor
  · intro same
    rw [← same, isNameStart_toLower_eq] at other
    rw [← same, toLower_of_not_isNameStart other]
  · rintro rfl
    exact toLower_of_not_isNameStart other

theorem toLower_ne {c mark : Char} (other : isNameStart mark = false) (differs : c ≠ mark) :
    c.toLower ≠ mark :=
  fun same => differs ((toLower_eq_iff other).mp same)

theorem map_toLower_map_toLower (cs : List Char) :
    (cs.map Char.toLower).map Char.toLower = cs.map Char.toLower := by
  rw [List.map_map]
  exact List.map_congr_left fun c _ => toLower_toLower c

theorem map_intercalate (respell : Char → Char) (separator : List Char) (pieces : List (List Char)) :
    (separator.intercalate pieces).map respell =
      (separator.map respell).intercalate (pieces.map (List.map respell)) := by
  induction pieces with
  | nil => rfl
  | cons piece pieces ih =>
      cases pieces with
      | nil => simp
      | cons next pieces =>
          rw [List.intercalate_cons_cons, List.map_append, List.map_append, ih]
          exact List.intercalate_cons_cons.symm

end ForeignGlue.Text
