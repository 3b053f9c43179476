/-
Continuation lines of foreign source.

A statement longer than the dialect's limit is cut before a character that is no word character, so
that no name is cut in half; a number can be, before the point or the sign inside it. Each line takes
as much as it can hold. In free form a line that goes on ends in `&`; in fixed form the next line
starts with `&` in column 6. Removing the marks gives the statement back.
-/

import ForeignGlue.Error
import ForeignGlue.Options.Basic

namespace ForeignGlue.Source

open ForeignGlue.Text

/-- A character that may not be cut off the one before it: part of a name, or outside ASCII. -/
def isWordChar (c : Char) : Bool :=
  isNameChar c || !isAscii c

/-- What is written between a line and its continuation. -/
def continuationMark : Dialect → List Char
  | .free => ['&', '\n']
  | .fixed => ['\n', ' ', ' ', ' ', ' ', ' ', '&']

/-- The bytes left for the statement on a continuation line. -/
def continuationRoom : Dialect → Nat
  | .free => Dialect.lineLimit .free
  | .fixed => Dialect.lineLimit .fixed - 6

/-- The bytes that a line may use if it goes on, having `room` for a statement that ends on it. -/
def continuedRoom (dialect : Dialect) (room : Nat) : Nat :=
  match dialect with
  | .free => room - 1
  | .fixed => room

/-- Whether a line may start here: with a character that is no word character. -/
def mayStartLine : List Char → Bool
  | [] => false
  | c :: _ => !isWordChar c

/-- The last cut whose first part is not empty and has at most `room` bytes. -/
def lastCut (room : Nat) : List Char → Option (List Char × List Char)
  | [] => none
  | c :: cs =>
    if c.utf8Size ≤ room then
      match lastCut (room - c.utf8Size) cs with
      | some (line, rest) => some (c :: line, rest)
      | none => if mayStartLine cs then some ([c], cs) else none
    else none

theorem append_of_lastCut {room : Nat} {cs line rest : List Char}
    (cut : lastCut room cs = some (line, rest)) : line ++ rest = cs := by
  induction cs generalizing room line with
  | nil => simp [lastCut] at cut
  | cons c cs ih =>
      rw [lastCut] at cut
      split at cut
      · split at cut
        · next found =>
            simp only [Option.some.injEq, Prod.mk.injEq] at cut
            obtain ⟨rfl, rfl⟩ := cut
            rw [List.cons_append, ih found]
        · split at cut
          · simp only [Option.some.injEq, Prod.mk.injEq] at cut
            obtain ⟨rfl, rfl⟩ := cut
            rfl
          · simp at cut
      · simp at cut

theorem ne_nil_of_lastCut {room : Nat} {cs line rest : List Char}
    (cut : lastCut room cs = some (line, rest)) : line ≠ [] := by
  cases cs with
  | nil => simp [lastCut] at cut
  | cons c cs =>
      rw [lastCut] at cut
      split at cut
      · split at cut
        · simp only [Option.some.injEq, Prod.mk.injEq] at cut
          simp [← cut.1]
        · split at cut
          · simp only [Option.some.injEq, Prod.mk.injEq] at cut
            simp [← cut.1]
          · simp at cut
      · simp at cut

theorem length_lt_of_lastCut {room : Nat} {cs line rest : List Char}
    (cut : lastCut room cs = some (line, rest)) : rest.length < cs.length := by
  have nonempty := List.length_pos_iff.mpr (ne_nil_of_lastCut cut)
  rw [← append_of_lastCut cut, List.length_append]
  omega

/-- The lines of a statement, of which the first has `room` bytes; `none` if it cannot be cut. -/
def linesOf (dialect : Dialect) (room : Nat) (cs : List Char) : Option (List (List Char)) :=
  if byteSize cs ≤ room then some [cs]
  else
    match found : lastCut (continuedRoom dialect room) cs with
    | none => none
    | some (line, rest) =>
      have := length_lt_of_lastCut found
      (linesOf dialect (continuationRoom dialect) rest).map (line :: ·)
termination_by cs.length

/-- The statement over as many lines as it needs. -/
def breakLine (dialect : Dialect) (text : String) : Except GenerationError String :=
  match linesOf dialect dialect.lineLimit text.toList with
  | some lines => .ok (String.ofList ((continuationMark dialect).intercalate lines))
  | none => .error (.noLineBreak text)

/-- The text with all continuation marks removed. -/
def rejoin (dialect : Dialect) (text : String) : String :=
  String.ofList (eraseFrom (continuationMark dialect) 0 text.toList)

end ForeignGlue.Source
