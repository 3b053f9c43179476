/-
Source text on its way.

A draft is a list of pieces, some of which may have failed. Writing goes from the first piece to the
first failure: `written` is what is there by then, and `finish` is the whole text if nothing failed.
-/

import ForeignGlue.Error

namespace ForeignGlue.Source

/-- Pieces of source, in order, some of which may have failed. -/
abbrev Draft (α : Type) := List (Except GenerationError α)

namespace Draft

/-- A draft in which nothing fails. -/
def ofList {α : Type} (pieces : List α) : Draft α :=
  pieces.map .ok

/-- The draft with every piece worked on further. -/
def refine {α β : Type} (work : α → Except GenerationError β) (draft : Draft α) : Draft β :=
  draft.map fun piece => piece.bind work

/-- The text before the first failure. -/
def written : Draft String → String
  | .ok text :: draft => text ++ written draft
  | _ => ""

/-- The whole text, or the first failure. -/
def finish : Draft String → Except GenerationError String
  | [] => .ok ""
  | .error error :: _ => .error error
  | .ok text :: draft =>
    match finish draft with
    | .error error => .error error
    | .ok rest => .ok (text ++ rest)

/-- A draft that finishes has written all of its text. -/
theorem written_of_finish {draft : Draft String} {text : String} (done : draft.finish = .ok text) :
    draft.written = text := by
  induction draft generalizing text with
  | nil => simpa [finish, written] using done
  | cons piece draft ih =>
      cases piece with
      | error error => simp [finish] at done
      | ok first =>
          rw [finish] at done
          split at done
          · simp at done
          · next rest found =>
              rw [written, ih found]
              simpa using done

end Draft

/-- The lines of a text, each with its end. -/
def endLines (lines : Draft String) : Draft String :=
  lines.map fun line => line.map (· ++ "\n")

end ForeignGlue.Source
