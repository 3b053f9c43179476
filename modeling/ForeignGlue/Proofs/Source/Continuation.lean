/-
**Statements over several lines.**

A broken statement is the statement with continuation marks woven in. What has to be known of it is
independent of how the cuts were found.

* `BrokenInto`: what a list of lines is for a statement. `brokenInto_of_linesOf`: the cutter's lines
  are of that kind.
* `Woven`: a text is another one with marks in it, and no mark is found where none was put.
  `Woven.erase` takes the marks out, `Woven.starts` says what every mark is followed by.
* `BrokenInto.woven`, `BrokenInto.linesFit`: a broken statement in front of a text that is woven,
  and whose lines fit.
-/

import ForeignGlue.Source.Continuation
import Mathlib.Data.List.Basic

namespace ForeignGlue.Source

open ForeignGlue.Text

variable {dialect : Dialect}

/-! ### Cuts -/

theorem byteSize_of_lastCut {room : Nat} {cs line rest : List Char}
    (cut : lastCut room cs = some (line, rest)) : byteSize line ≤ room ∧ mayStartLine rest := by
  induction cs generalizing room line with
  | nil => simp [lastCut] at cut
  | cons c cs ih =>
      rw [lastCut] at cut
      split at cut
      · next fits =>
          split at cut
          · next found =>
              simp only [Option.some.injEq, Prod.mk.injEq] at cut
              obtain ⟨rfl, rfl⟩ := cut
              obtain ⟨lineFits, starts⟩ := ih found
              refine ⟨?_, starts⟩
              rw [byteSize]
              omega
          · split at cut
            · next starts =>
                simp only [Option.some.injEq, Prod.mk.injEq] at cut
                obtain ⟨rfl, rfl⟩ := cut
                exact ⟨by simpa [byteSize] using fits, starts⟩
            · cases cut
      · cases cut

/-- **The lines of a statement**, the first of which has `room` bytes. A line that goes on leaves
place for its mark, and the next one does not start with a word character. -/
inductive BrokenInto (dialect : Dialect) : Nat → List Char → List (List Char) → Prop
  | last {room : Nat} {cs : List Char} (fits : byteSize cs ≤ room) :
      BrokenInto dialect room cs [cs]
  | more {room : Nat} {line rest : List Char} {lines : List (List Char)} (filled : line ≠ [])
      (fits : byteSize line ≤ continuedRoom dialect room) (starts : mayStartLine rest)
      (later : BrokenInto dialect (continuationRoom dialect) rest lines) :
      BrokenInto dialect room (line ++ rest) (line :: lines)

theorem brokenInto_of_linesOf {room : Nat} {cs : List Char} {lines : List (List Char)}
    (broken : linesOf dialect room cs = some lines) : BrokenInto dialect room cs lines := by
  fun_induction linesOf dialect room cs generalizing lines with
  | case1 room cs fits =>
      obtain rfl := Option.some.inj broken
      exact .last fits
  | case2 room cs tooLong noCut => cases broken
  | case3 room cs tooLong line rest found shorter ih =>
      obtain ⟨later, laterBroken, rfl⟩ := Option.map_eq_some_iff.mp broken
      obtain ⟨fits, starts⟩ := byteSize_of_lastCut found
      rw [← append_of_lastCut found]
      exact .more (ne_nil_of_lastCut found) fits starts (ih laterBroken)

/-! ### Marks woven into a text -/

/-- **A text with marks woven in.** Wherever a mark can be read, one was put, in front of something
that may start a line. -/
inductive Woven (dialect : Dialect) : List Char → List Char → Prop
  | nil : Woven dialect [] []
  | char {c : Char} {cs ds : List Char} (plain : ¬ continuationMark dialect <+: c :: cs)
      (rest : Woven dialect cs ds) : Woven dialect (c :: cs) (c :: ds)
  | mark {cs ds : List Char} (starts : mayStartLine cs) (rest : Woven dialect cs ds) :
      Woven dialect (continuationMark dialect ++ cs) ds

/-- The first character of a mark does not come again in it, so that no two marks overlap. -/
theorem continuationMark_eq_cons (dialect : Dialect) : ∃ first more,
    continuationMark dialect = first :: more ∧ first ∉ more := by
  cases dialect with
  | free => exact ⟨_, _, rfl, by decide⟩
  | fixed => exact ⟨_, _, rfl, by decide⟩

namespace Woven

variable {cs ds : List Char}

/-- Taking the marks out gives the text back. -/
theorem erase (woven : Woven dialect cs ds) : eraseFrom (continuationMark dialect) 0 cs = ds := by
  induction woven with
  | nil => rfl
  | char plain _ ih => rw [eraseFrom, if_neg (by simpa using plain), ih]
  | @mark cs ds _ _ ih =>
      obtain ⟨first, more, spelled, -⟩ := continuationMark_eq_cons dialect
      rw [spelled] at ih ⊢
      rw [List.cons_append, eraseFrom, if_pos (by simp [List.isPrefixOf_iff_prefix]),
        eraseFrom_eq_drop]
      simpa using ih

/-- Every mark is followed by what may start a line. -/
theorem starts (woven : Woven dialect cs ds) {before after : List Char}
    (found : cs = before ++ (continuationMark dialect ++ after)) : mayStartLine after := by
  obtain ⟨first, more, spelled, once⟩ := continuationMark_eq_cons dialect
  induction woven generalizing before with
  | nil => simp [spelled] at found
  | char plain _ ih =>
      cases before with
      | nil =>
          rw [found] at plain
          exact absurd (List.prefix_append _ _) plain
      | cons b before => exact ih (List.cons.inj found).2
  | mark starts _ ih =>
      rcases List.append_eq_append_iff.mp found with ⟨skipped, rfl, rest⟩ | ⟨overlap, isMark, rest⟩
      · exact ih rest
      · cases before with
        | nil =>
            rw [List.nil_append] at isMark
            rw [← isMark] at rest
            rwa [List.append_cancel_left rest]
        | cons b before =>
            cases overlap with
            | nil => exact @ih [] rest.symm
            | cons c overlap =>
                -- the second mark would start with a later character of the first
                rw [spelled] at isMark rest
                obtain rfl : first = c := (List.cons.inj rest).1
                refine absurd ?_ once
                rw [(List.cons.inj isMark).2]
                simp

/-- A piece without newlines in front. In free form it must not end in the first half of a mark whose
second half follows. -/
theorem append_plain {piece : List Char} (oneLine : '\n' ∉ piece)
    (seam : dialect = .free → piece.getLast? = some '&' → cs.head? ≠ some '\n')
    (woven : Woven dialect cs ds) : Woven dialect (piece ++ cs) (piece ++ ds) := by
  induction piece with
  | nil => exact woven
  | cons c piece ih =>
      rw [List.mem_cons, not_or] at oneLine
      refine .char ?_ (ih oneLine.2 fun free last => seam free ?_)
      · intro isMark
        cases dialect with
        | fixed => exact oneLine.1 (List.cons_prefix_cons.mp isMark).1
        | free =>
            obtain ⟨isFirst, isSecond⟩ := List.cons_prefix_cons.mp isMark
            cases piece with
            | nil =>
                refine seam rfl (by rw [← isFirst]; rfl) ?_
                obtain ⟨more, same⟩ := isSecond
                exact congrArg List.head? same.symm
            | cons d piece =>
                refine oneLine.2 ?_
                rw [(List.cons_prefix_cons.mp isSecond).1]
                exact List.mem_cons_self
      · exact List.mem_getLast?_cons last

end Woven

/-! ### Broken statements in front of a text -/

/-- What a continuation line of fixed form starts with. -/
def gutter : List Char :=
  [' ', ' ', ' ', ' ', ' ', '&']

/-- What has no newline and starts a text that goes on with one starts the first line of it. -/
theorem prefix_of_oneLine {start line rest : List Char} (oneLine : '\n' ∉ start)
    (isPrefix : start <+: line ++ '\n' :: rest) : start <+: line := by
  rcases Nat.lt_or_ge line.length start.length with longer | within
  · have whole : line ++ ['\n'] <+: line ++ '\n' :: rest := ⟨rest, by simp⟩
    obtain ⟨more, rfl⟩ := List.prefix_of_prefix_length_le whole isPrefix
      (by rw [List.length_append]; exact longer)
    simp at oneLine
  · exact List.prefix_of_prefix_length_le isPrefix (List.prefix_append line _) within

namespace BrokenInto

variable {room : Nat} {cs rest log : List Char} {lines : List (List Char)}

theorem ne_nil (broken : BrokenInto dialect room cs lines) : lines ≠ [] := by
  cases broken <;> simp

/-- A statement starts as its first line does. -/
theorem mayStartLine_append (broken : BrokenInto dialect room cs lines) (starts : mayStartLine cs)
    (rest : List Char) : mayStartLine ((continuationMark dialect).intercalate lines ++ rest) := by
  cases broken with
  | last fits =>
      rw [List.intercalate_singleton]
      cases cs with
      | nil => cases starts
      | cons c cs => exact starts
  | @more _ line _ lines filled _ _ later =>
      rw [List.intercalate_cons_of_ne_nil later.ne_nil]
      cases line with
      | nil => exact absurd rfl filled
      | cons c line => exact starts

/-- No mark is read where a broken statement follows the end of another one. -/
theorem reads_no_mark (broken : BrokenInto dialect room cs lines) (oneLine : '\n' ∉ cs)
    (start : dialect = .fixed → ¬ gutter <+: cs) (rest : List Char) :
    ¬ continuationMark dialect <+:
      '\n' :: ((continuationMark dialect).intercalate lines ++ '\n' :: rest) := by
  cases dialect with
  | free => exact fun isMark => absurd (List.cons_prefix_cons.mp isMark).1 (by decide)
  | fixed =>
      intro isMark
      have isGutter := (List.cons_prefix_cons.mp isMark).2
      refine start rfl ?_
      cases broken with
      | last fits =>
          rw [List.intercalate_singleton] at isGutter
          exact prefix_of_oneLine (by decide) isGutter
      | @more _ line later lines _ _ _ broken =>
          rw [List.intercalate_cons_of_ne_nil broken.ne_nil, List.append_assoc, List.append_assoc]
            at isGutter
          exact (prefix_of_oneLine (by decide) isGutter).trans (List.prefix_append line later)

/-- **A broken statement in front of a woven text.** -/
theorem woven (broken : BrokenInto dialect room cs lines) (oneLine : '\n' ∉ cs)
    (ends : dialect = .free → cs.getLast? ≠ some '&')
    (seam : ¬ continuationMark dialect <+: '\n' :: rest) (restWoven : Woven dialect rest log) :
    Woven dialect ((continuationMark dialect).intercalate lines ++ '\n' :: rest)
      (cs ++ '\n' :: log) := by
  induction broken with
  | last fits =>
      rw [List.intercalate_singleton]
      exact .append_plain oneLine (fun free last => absurd last (ends free)) (.char seam restWoven)
  | @more _ line later lines filled _ starts broken ih =>
      rw [List.mem_append, not_or] at oneLine
      have laterEnds : dialect = .free → later.getLast? ≠ some '&' := by
        intro free last
        refine ends free ?_
        rw [List.getLast?_append, last]
        rfl
      rw [List.intercalate_cons_of_ne_nil broken.ne_nil, List.append_assoc, List.append_assoc,
        List.append_assoc]
      refine .append_plain oneLine.1 (fun free _ => ?_) (.mark (broken.mayStartLine_append starts _)
        (ih oneLine.2 laterEnds))
      rw [free]
      exact fun same => absurd (Option.some.inj same) (by decide)

end BrokenInto

/-! ### The length of lines -/

/-- All lines of a text have at most `limit` bytes. -/
def LinesFit (limit : Nat) (cs : List Char) : Prop :=
  ∀ line ∈ splitAtChars (· == '\n') cs, byteSize line ≤ limit

theorem splitAtChars_line {line : List Char} (oneLine : '\n' ∉ line) (rest : List Char) :
    splitAtChars (· == '\n') (line ++ '\n' :: rest) = line :: splitAtChars (· == '\n') rest := by
  induction line with
  | nil => rfl
  | cons c line ih =>
      rw [List.mem_cons, not_or] at oneLine
      have other : (c == '\n') = false := beq_false_of_ne (Ne.symm oneLine.1)
      rw [List.cons_append, splitAtChars, if_neg (by rw [other]; decide), ih oneLine.2]

theorem linesFit_line {limit : Nat} {line rest : List Char} (oneLine : '\n' ∉ line) :
    LinesFit limit (line ++ '\n' :: rest) ↔ byteSize line ≤ limit ∧ LinesFit limit rest := by
  rw [LinesFit, splitAtChars_line oneLine, List.forall_mem_cons]
  rfl

/-- **The lines of a broken statement fit**, if those after it do. On its first line it follows
`lead`, which leaves it `room` bytes. -/
theorem BrokenInto.linesFit {room : Nat} {cs lead rest : List Char} {lines : List (List Char)}
    (broken : BrokenInto dialect room cs lines) (oneLine : '\n' ∉ cs) (leadLine : '\n' ∉ lead)
    (leaves : byteSize lead + room = dialect.lineLimit) (restFits : LinesFit dialect.lineLimit rest) :
    LinesFit dialect.lineLimit
      (lead ++ (continuationMark dialect).intercalate lines ++ '\n' :: rest) := by
  induction broken generalizing lead with
  | last fits =>
      rw [List.intercalate_singleton, linesFit_line (by simp [oneLine, leadLine]), byteSize_append]
      exact ⟨by omega, restFits⟩
  | @more room line later lines filled fits _ broken ih =>
      rw [List.mem_append, not_or] at oneLine
      have positive : 0 < byteSize line :=
        Nat.lt_of_lt_of_le (List.length_pos_iff.mpr filled) (length_le_byteSize line)
      rw [List.intercalate_cons_of_ne_nil broken.ne_nil]
      cases dialect with
      | free =>
          have split : lead ++ (line ++ continuationMark .free ++
              (continuationMark .free).intercalate lines) ++ '\n' :: rest =
              (lead ++ line ++ ['&']) ++ '\n' ::
                ([] ++ (continuationMark .free).intercalate lines ++ '\n' :: rest) := by
            simp [continuationMark]
          have one : byteSize ['&'] = 1 := rfl
          rw [split, linesFit_line (by simp [oneLine, leadLine]), byteSize_append, byteSize_append, one]
          refine ⟨?_, ih oneLine.2 (by simp) rfl⟩
          rw [continuedRoom] at fits
          omega
      | fixed =>
          have split : lead ++ (line ++ continuationMark .fixed ++
              (continuationMark .fixed).intercalate lines) ++ '\n' :: rest =
              (lead ++ line) ++ '\n' ::
                (gutter ++ (continuationMark .fixed).intercalate lines ++ '\n' :: rest) := by
            simp [continuationMark, gutter]
          rw [split, linesFit_line (by simp [oneLine, leadLine]), byteSize_append]
          refine ⟨?_, ih oneLine.2 (by decide) rfl⟩
          rw [continuedRoom] at fits
          omega

end ForeignGlue.Source
