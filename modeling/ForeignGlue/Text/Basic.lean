/-
Text operations of the generator.

Names compare without regard to ASCII case, lengths count UTF-8 bytes, and trimming and splitting go
by `isBlank`. Every operation is defined on the list of characters, so that a law about it is a
list lemma.
-/

import ForeignGlue.Text.CharClass

namespace ForeignGlue.Text

/-- The text with ASCII letters in lower case. -/
def lower (s : String) : String :=
  String.ofList (s.toList.map Char.toLower)

/-- Equality of names, without regard to ASCII case. -/
def sameName (s t : String) : Bool :=
  lower s == lower t

/-- The number of bytes of the characters in UTF-8. -/
def byteSize : List Char → Nat
  | [] => 0
  | c :: cs => c.utf8Size + byteSize cs

/-- The characters without leading blanks. -/
def trimStartChars (cs : List Char) : List Char :=
  cs.dropWhile isBlank

/-- The characters without leading and trailing blanks. -/
def trimChars (cs : List Char) : List Char :=
  ((cs.dropWhile isBlank).reverse.dropWhile isBlank).reverse

/-- The text without leading blanks. -/
def trimStart (s : String) : String :=
  String.ofList (trimStartChars s.toList)

/-- The text without leading and trailing blanks. -/
def trim (s : String) : String :=
  String.ofList (trimChars s.toList)

/-- Whether nothing but blanks is written. -/
def isBlankText (s : String) : Bool :=
  s.toList.all isBlank

/-- The pieces between the characters that satisfy `p`, empty ones included. -/
def splitAtChars (p : Char → Bool) : List Char → List (List Char)
  | [] => [[]]
  | c :: cs =>
    if p c then [] :: splitAtChars p cs
    else
      match splitAtChars p cs with
      | [] => [[c]]
      | piece :: pieces => (c :: piece) :: pieces

/-- The words of a text: its maximal runs of characters that are no blanks. -/
def words (s : String) : List String :=
  ((splitAtChars isBlank s.toList).filter fun piece => !piece.isEmpty).map String.ofList

/-- The pieces joined by `separator`. -/
def join (separator : String) (pieces : List String) : String :=
  separator.intercalate pieces

/-- The text with every newline replaced by a blank. -/
def flattenLines (s : String) : String :=
  String.ofList (s.toList.map fun c => if c == '\n' then ' ' else c)

/-- The characters after the first `skip`, with every occurrence of `mark` removed; occurrences are
found from the left and do not overlap. -/
def eraseFrom (mark : List Char) : Nat → List Char → List Char
  | _, [] => []
  | skip + 1, _ :: cs => eraseFrom mark skip cs
  | 0, c :: cs =>
    if mark.isPrefixOf (c :: cs) then eraseFrom mark (mark.length - 1) cs
    else c :: eraseFrom mark 0 cs

/-! ### Laws -/

@[simp] theorem toList_lower (s : String) : (lower s).toList = s.toList.map Char.toLower := by
  simp [lower]

@[simp] theorem byteSize_append (cs ds : List Char) :
    byteSize (cs ++ ds) = byteSize cs + byteSize ds := by
  induction cs with
  | nil => simp [byteSize]
  | cons c cs ih => simp [byteSize, ih, Nat.add_assoc]

theorem length_le_byteSize (cs : List Char) : cs.length ≤ byteSize cs := by
  induction cs with
  | nil => simp [byteSize]
  | cons c cs ih =>
      have positive : 0 < c.utf8Size := Char.utf8Size_pos c
      simp [byteSize]
      omega

/-- The bytes of a text are those of its characters. -/
theorem byteSize_toList (s : String) : byteSize s.toList = s.utf8ByteSize := by
  have ofChars (cs : List Char) : byteSize cs = (String.ofList cs).utf8ByteSize := by
    induction cs with
    | nil => rfl
    | cons c cs ih =>
        have split : String.ofList (c :: cs) = String.singleton c ++ String.ofList cs := by
          rw [String.singleton_eq_ofList, ← String.ofList_append, List.singleton_append]
        rw [byteSize, ih, split, String.utf8ByteSize_append, String.utf8ByteSize_singleton]
  rw [ofChars, String.ofList_toList]

/-- **Skipping is dropping.** A scan that counts down over what it has already read goes on as if it
started behind it, whatever it does at the places where it reads. -/
theorem scan_eq_drop {α β : Type} {scan : Nat → List α → β} (ends : ∀ skip, scan skip [] = scan 0 [])
    (skips : ∀ skip a rest, scan (skip + 1) (a :: rest) = scan skip rest) (skip : Nat) (list : List α) :
    scan skip list = scan 0 (list.drop skip) := by
  induction list generalizing skip with
  | nil => rw [List.drop_nil, ends]
  | cons a rest ih =>
      cases skip with
      | zero => rfl
      | succ skip => rw [skips, ih, List.drop_succ_cons]

theorem eraseFrom_eq_drop (mark : List Char) (skip : Nat) (cs : List Char) :
    eraseFrom mark skip cs = eraseFrom mark 0 (cs.drop skip) :=
  scan_eq_drop (fun _ => by rw [eraseFrom, eraseFrom]) (fun _ _ _ => by rw [eraseFrom]) skip cs

end ForeignGlue.Text
