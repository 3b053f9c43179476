/-
**The fewest lines.**

A statement is broken greedily: each line takes as much as it can hold, up to the last place where the
next one may start. That this never misses a way to break the statement, and never takes a line more
than needed, is an exchange argument: whatever way there is, its lines can be shortened from the left
until the first one ends where the greedy one does.

* `lastCut_extends`: the last cut is not before any other that fits.
* `BrokenInto.dropStart`: what is left of a broken statement, its start taken away, needs no more
  lines.
* `exists_linesOf`: the greedy lines exist if any do, and there are no fewer.
* `IsBreaking`: ways to break a text, as positions of its bytes. `brokenInto_of_breaksFrom` and
  `BrokenInto.breaksFrom` pass between these and lines of characters.
* `breakLine_fewest`: failure and the number of lines, by positions of bytes.
-/

import ForeignGlue.Proofs.Source.ForeignText
import ForeignGlue.Proofs.Text.Utf8

namespace ForeignGlue.Source

open ForeignGlue.Text

variable {dialect : Dialect} {room : Nat} {cs : List Char} {lines : List (List Char)}

/-! ### The greedy choice -/

/-- **The last cut is not before any other that fits.** -/
theorem lastCut_extends {line rest : List Char} (filled : line ≠ []) (fits : byteSize line ≤ room)
    (starts : mayStartLine rest) :
    ∃ more later, lastCut room (line ++ rest) = some (line ++ more, later) ∧ rest = more ++ later := by
  induction line generalizing room with
  | nil => exact absurd rfl filled
  | cons c line ih =>
      rw [byteSize] at fits
      rw [List.cons_append, lastCut, if_pos (by omega)]
      cases line with
      | nil =>
          rw [List.nil_append]
          cases found : lastCut (room - c.utf8Size) rest with
          | none =>
              rw [if_pos starts]
              exact ⟨[], rest, rfl, rfl⟩
          | some cut => exact ⟨cut.1, cut.2, rfl, (append_of_lastCut found).symm⟩
      | cons d line =>
          obtain ⟨more, later, found, split⟩ := @ih (room - c.utf8Size)
            (List.cons_ne_nil d line) (by omega)
          rw [found]
          exact ⟨more, later, rfl, split⟩

/-- **A broken statement without its start** needs no more lines, if a line may start where the rest
does. -/
theorem BrokenInto.dropStart {skipped later : List Char}
    (broken : BrokenInto dialect (continuationRoom dialect) (skipped ++ later) lines)
    (starts : mayStartLine later) :
    ∃ fewer, BrokenInto dialect (continuationRoom dialect) later fewer ∧
      fewer.length ≤ lines.length := by
  generalize isRoom : continuationRoom dialect = room at broken
  generalize isWhole : skipped ++ later = whole at broken
  induction broken generalizing skipped with
  | last fits =>
      subst isRoom isWhole
      rw [byteSize_append] at fits
      exact ⟨[later], .last (by omega), Nat.le_refl _⟩
  | @more room line rest lines filled fits startsRest laterBroken ih =>
      subst isRoom
      rcases List.append_eq_append_iff.mp isWhole with ⟨left, isLine, isLater⟩ | ⟨left, isSkipped, isRest⟩
      · -- the rest starts on this line, of which `left` remains
        subst isLine isLater
        rw [byteSize_append] at fits
        cases left with
        | nil => exact ⟨lines, laterBroken, Nat.le_succ _⟩
        | cons c left =>
            exact ⟨_, .more (List.cons_ne_nil c left) (by omega) startsRest laterBroken, Nat.le_refl _⟩
      · obtain ⟨fewer, brokenFewer, count⟩ := ih rfl isRest.symm
        exact ⟨fewer, brokenFewer, Nat.le_succ_of_le count⟩

/-- A statement that is too long is cut at the last place that fits. -/
theorem linesOf_of_lastCut {line rest : List Char} (tooLong : ¬ byteSize cs ≤ room)
    (cut : lastCut (continuedRoom dialect room) cs = some (line, rest)) :
    linesOf dialect room cs =
      (linesOf dialect (continuationRoom dialect) rest).map (line :: ·) := by
  rw [linesOf, if_neg tooLong]
  split
  · next noCut =>
      rw [cut] at noCut
      cases noCut
  · next found =>
      rw [cut] at found
      cases found
      rfl

/-- **The greedy lines exist if any do, and they are the fewest.** From where the greedy line ends, the
rest of the given lines is enough. -/
theorem exists_linesOf (broken : BrokenInto dialect room cs lines) :
    ∃ found, linesOf dialect room cs = some found ∧ found.length ≤ lines.length := by
  induction size : cs.length using Nat.strongRecOn generalizing room cs lines with
  | ind n ih =>
      by_cases fits : byteSize cs ≤ room
      · refine ⟨[cs], ?_, List.length_pos_iff.mpr broken.ne_nil⟩
        rw [linesOf, if_pos fits]
      · cases broken with
        | last fitsToo => exact absurd fitsToo fits
        | @more _ line rest lines filled lineFits starts later =>
            obtain ⟨more, left, found, rfl⟩ := lastCut_extends filled lineFits starts
            obtain ⟨fewer, brokenFewer, count⟩ := later.dropStart (byteSize_of_lastCut found).2
            obtain ⟨greedy, isGreedy, least⟩ :=
              ih left.length (size ▸ length_lt_of_lastCut found) brokenFewer rfl
            refine ⟨(line ++ more) :: greedy, ?_, Nat.succ_le_succ (Nat.le_trans least count)⟩
            rw [linesOf_of_lastCut fits found, isGreedy]
            rfl

/-! ### Ways to break a text, by positions of bytes -/

/-- Whether a text may be cut at a position: before a byte of no word, which is not the first. -/
def MayCut (bytes : List UInt8) (position : Nat) : Prop :=
  0 < position ∧ ∃ byte, bytes[position]? = some byte ∧ isWordByte byte = false

/-- The sizes of the pieces from `start` to `size`, cut at the positions in between. -/
def pieceSizes (size : Nat) : Nat → List Nat → List Nat
  | start, [] => [size - start]
  | start, position :: positions => (position - start) :: pieceSizes size position positions

/-- Whether pieces fit on the lines of a dialect. In free form every line but the last has a byte for
its mark; in fixed form every line but the first has six bytes in front. -/
def PiecesFit : Dialect → List Nat → Prop
  | .free, sizes => (∀ size ∈ sizes.dropLast, size ≤ 131) ∧ ∀ size ∈ sizes.getLast?, size ≤ 132
  | .fixed, sizes => (∀ size ∈ sizes.head?, size ≤ 72) ∧ ∀ size ∈ sizes.tail, size ≤ 66

/-- **A way to break a text**: increasing positions where it may be cut, and pieces that fit. -/
structure IsBreaking (dialect : Dialect) (bytes : List UInt8) (positions : List Nat) : Prop where
  increasing : positions.Pairwise (· < ·)
  mayCut : ∀ position ∈ positions, MayCut bytes position
  fit : PiecesFit dialect (pieceSizes bytes.length 0 positions)

/-- The pieces from `start` on fit, line by line. -/
def FitFrom (dialect : Dialect) (size : Nat) : Nat → Nat → List Nat → Prop
  | room, start, [] => size - start ≤ room
  | room, start, position :: positions => position - start ≤ continuedRoom dialect room ∧
      FitFrom dialect size (continuationRoom dialect) position positions

theorem pieceSizes_ne_nil (size start : Nat) (positions : List Nat) :
    pieceSizes size start positions ≠ [] := by
  cases positions <;> exact List.cons_ne_nil _ _

theorem fitFrom_free_iff (size start : Nat) (positions : List Nat) :
    FitFrom .free size 132 start positions ↔ PiecesFit .free (pieceSizes size start positions) := by
  induction positions generalizing start with
  | nil => simp [FitFrom, pieceSizes, PiecesFit]
  | cons position positions ih =>
      rw [FitFrom, show continuationRoom .free = 132 from rfl, ih, pieceSizes, PiecesFit, PiecesFit,
        List.dropLast_cons_of_ne_nil (pieceSizes_ne_nil _ _ _), List.forall_mem_cons, and_assoc,
        List.getLast?_cons_of_ne_nil (pieceSizes_ne_nil _ _ _)]
      rfl

theorem fitFrom_fixed_iff (size room start : Nat) (positions : List Nat) :
    FitFrom .fixed size room start positions ↔
      (∀ piece ∈ (pieceSizes size start positions).head?, piece ≤ room) ∧
        ∀ piece ∈ (pieceSizes size start positions).tail, piece ≤ 66 := by
  induction positions generalizing room start with
  | nil => simp [FitFrom, pieceSizes]
  | cons position positions ih =>
      obtain ⟨first, rest, same⟩ := List.exists_cons_of_ne_nil (pieceSizes_ne_nil size position positions)
      rw [FitFrom, show continuationRoom .fixed = 66 from rfl, ih, pieceSizes, same]
      simp [continuedRoom]

/-- Pieces that fit their lines, from the first to the last. -/
theorem piecesFit_iff (dialect : Dialect) (size : Nat) (positions : List Nat) :
    PiecesFit dialect (pieceSizes size 0 positions) ↔
      FitFrom dialect size dialect.lineLimit 0 positions := by
  cases dialect with
  | free => exact (fitFrom_free_iff size 0 positions).symm
  | fixed => exact (fitFrom_fixed_iff size 72 0 positions).symm

/-! ### Positions and lines -/

/-- The positions where lines end that go on, the first of which starts at `start`. -/
def positionsFrom : Nat → List (List Char) → List Nat
  | _, [] => []
  | _, [_] => []
  | start, line :: next :: lines =>
    (start + byteSize line) :: positionsFrom (start + byteSize line) (next :: lines)

theorem positionsFrom_cons (start : Nat) (line : List Char) (notLast : lines ≠ []) :
    positionsFrom start (line :: lines) =
      (start + byteSize line) :: positionsFrom (start + byteSize line) lines := by
  cases lines with
  | nil => exact absurd rfl notLast
  | cons next lines => rfl

theorem length_positionsFrom (start : Nat) (notEmpty : lines ≠ []) :
    (positionsFrom start lines).length + 1 = lines.length := by
  induction lines generalizing start with
  | nil => exact absurd rfl notEmpty
  | cons line lines ih =>
      cases lines with
      | nil => rfl
      | cons next lines =>
          rw [positionsFrom, List.length_cons, ih _ (List.cons_ne_nil _ _)]
          rfl

/-- The positions from `start` on of a way to break a text. -/
structure BreaksFrom (dialect : Dialect) (bytes : List UInt8) (room start : Nat)
    (positions : List Nat) : Prop where
  increasing : (start :: positions).Pairwise (· < ·)
  mayCut : ∀ position ∈ positions, MayCut bytes position
  fit : FitFrom dialect bytes.length room start positions

/-- **Ways to break a text**, from its start on. -/
theorem isBreaking_iff {bytes : List UInt8} {positions : List Nat} :
    IsBreaking dialect bytes positions ↔ BreaksFrom dialect bytes dialect.lineLimit 0 positions := by
  constructor
  · rintro ⟨increasing, mayCut, fit⟩
    exact ⟨List.pairwise_cons.mpr ⟨fun position member => (mayCut position member).1, increasing⟩,
      mayCut, (piecesFit_iff dialect bytes.length positions).mp fit⟩
  · rintro ⟨increasing, mayCut, fit⟩
    exact ⟨(List.pairwise_cons.mp increasing).2, mayCut,
      (piecesFit_iff dialect bytes.length positions).mpr fit⟩

/-- **A text may be cut where a line may start**, and only there, so never inside a character. -/
theorem mayCut_iff {whole : List Char} {position : Nat} : MayCut (utf8 whole) position ↔
    ∃ before rest, whole = before ++ rest ∧ byteSize before = position ∧ before ≠ [] ∧
      mayStartLine rest := by
  constructor
  · rintro ⟨positive, byte, found, noWord⟩
    simp only [isWordByte, Bool.or_eq_false_iff, decide_eq_false_iff_not, Nat.not_le] at noWord
    obtain ⟨before, c, after, rfl, isPosition, code⟩ := exists_char_of_byte found noWord.2
    rw [← code, Char.ofNat_toNat] at noWord
    refine ⟨before, c :: after, rfl, isPosition, ?_, ?_⟩
    · rintro rfl
      rw [← isPosition] at positive
      exact absurd positive (Nat.lt_irrefl 0)
    · simp [mayStartLine, isWordChar, isAscii, noWord]
  · rintro ⟨before, rest, rfl, rfl, filled, starts⟩
    refine ⟨byteSize_pos filled, ?_⟩
    have first : (utf8 (before ++ rest))[byteSize before]? = (utf8 rest).head? := by
      rw [utf8_append, ← length_utf8, List.getElem?_append_right (Nat.le_refl _), Nat.sub_self,
        List.head?_eq_getElem?]
    rw [first]
    cases head : (utf8 rest).head? with
    | some byte => exact ⟨byte, rfl, isWordByte_of_mayStartLine starts byte head⟩
    | none =>
        have size := length_utf8 rest
        rw [List.head?_eq_none_iff.mp head] at size
        cases rest with
        | nil => cases starts
        | cons c rest => exact absurd size.symm (Nat.ne_of_gt (byteSize_pos (List.cons_ne_nil c rest)))

/-- The lines of a broken text, as positions. -/
theorem BrokenInto.breaksFrom (broken : BrokenInto dialect room cs lines) (before : List Char) :
    BreaksFrom dialect (utf8 (before ++ cs)) room (byteSize before)
      (positionsFrom (byteSize before) lines) := by
  induction broken generalizing before with
  | last fits =>
      refine ⟨List.pairwise_singleton _ _, by simp [positionsFrom], ?_⟩
      rw [positionsFrom, FitFrom, length_utf8, byteSize_append]
      omega
  | @more room line rest lines filled fits starts later ih =>
      obtain ⟨increasing, mayCut, fit⟩ := ih (before ++ line)
      rw [byteSize_append] at increasing mayCut fit
      rw [List.append_assoc] at mayCut fit
      rw [positionsFrom_cons _ _ later.ne_nil]
      have here : byteSize before < byteSize before + byteSize line :=
        Nat.lt_add_of_pos_right (byteSize_pos filled)
      refine ⟨List.pairwise_cons.mpr ⟨?_, increasing⟩, List.forall_mem_cons.mpr ⟨?_, mayCut⟩, ?_, fit⟩
      · exact List.forall_mem_cons.mpr ⟨here, fun position member =>
          Nat.lt_trans here ((List.pairwise_cons.mp increasing).1 position member)⟩
      · exact mayCut_iff.mpr ⟨before ++ line, rest, (List.append_assoc ..).symm, byteSize_append _ _,
          List.append_ne_nil_of_right_ne_nil _ filled, starts⟩
      · rwa [Nat.add_sub_cancel_left]

/-- Positions at which a statement may be broken, as its lines: each is what stands between two of them.
-/
theorem brokenInto_of_breaksFrom {before : List Char} {positions : List Nat}
    (breaks : BreaksFrom dialect (utf8 (before ++ cs)) room (byteSize before) positions) :
    ∃ lines, BrokenInto dialect room cs lines ∧ positions = positionsFrom (byteSize before) lines := by
  induction positions generalizing before cs room with
  | nil =>
      have fit := breaks.fit
      rw [FitFrom, length_utf8, byteSize_append, Nat.add_sub_cancel_left] at fit
      exact ⟨[cs], .last fit, rfl⟩
  | cons position positions ih =>
      obtain ⟨increasing, mayCut, fits, fit⟩ := breaks
      obtain ⟨ahead, increasing⟩ := List.pairwise_cons.mp increasing
      obtain ⟨here, mayCutLater⟩ := List.forall_mem_cons.mp mayCut
      obtain ⟨upTo, rest, split, rfl, -, starts⟩ := mayCut_iff.mp here
      have longer : byteSize before < byteSize upTo := ahead _ List.mem_cons_self
      obtain ⟨line, rfl, rfl⟩ : ∃ line, upTo = before ++ line ∧ cs = line ++ rest := by
        rcases List.append_eq_append_iff.mp split with ⟨line, isUpTo, isRest⟩ | ⟨more, isBefore, -⟩
        · exact ⟨line, isUpTo, isRest⟩
        · rw [isBefore, byteSize_append] at longer
          omega
      rw [split] at fit mayCutLater
      obtain ⟨lines, broken, rfl⟩ := ih ⟨increasing, mayCutLater, fit⟩
      rw [byteSize_append, Nat.add_sub_cancel_left] at fits
      refine ⟨line :: lines, .more ?_ fits starts broken, ?_⟩
      · rintro rfl
        simp at longer
      · rw [positionsFrom_cons _ _ broken.ne_nil, byteSize_append]

/-- **Ways to break a text are lists of lines.** -/
theorem isBreaking_utf8_iff {positions : List Nat} :
    IsBreaking dialect (utf8 cs) positions ↔
      ∃ lines, BrokenInto dialect dialect.lineLimit cs lines ∧ positions = positionsFrom 0 lines := by
  rw [isBreaking_iff]
  constructor
  · intro breaks
    have fromStart : BreaksFrom dialect (utf8 ([] ++ cs)) dialect.lineLimit (byteSize []) positions :=
      breaks
    exact brokenInto_of_breaksFrom fromStart
  · rintro ⟨lines, broken, rfl⟩
    exact broken.breaksFrom []

/-! ### Breaking a line -/

/-- Breaking a text loses nothing. -/
theorem BrokenInto.flatten_eq (broken : BrokenInto dialect room cs lines) : lines.flatten = cs := by
  induction broken with
  | last fits => simp
  | more _ _ _ _ ih => rw [List.flatten_cons, ih]

/-- The lines take the bytes between the positions. -/
theorem BrokenInto.map_byteSize (broken : BrokenInto dialect room cs lines) (start : Nat) :
    lines.map byteSize = pieceSizes (start + byteSize cs) start (positionsFrom start lines) := by
  induction broken generalizing start with
  | last fits => simp [positionsFrom, pieceSizes]
  | @more room line rest lines _ _ _ later ih =>
      rw [positionsFrom_cons _ _ later.ne_nil, List.map_cons, pieceSizes, Nat.add_sub_cancel_left,
        ih (start + byteSize line), byteSize_append, Nat.add_assoc]

theorem breakLine_of_linesOf {text : String}
    (found : linesOf dialect dialect.lineLimit text.toList = some lines) :
    breakLine dialect text = .ok (String.ofList ((continuationMark dialect).intercalate lines)) := by
  rw [breakLine, found]

/-- **A line is broken if it can be, and into the fewest lines.** It fails exactly if it is too long
and there is no way to break it. Else its lines are those of a way to break it, each made of whole
characters, and no way has fewer. -/
theorem breakLine_fewest (dialect : Dialect) (text : String) :
    (breakLine dialect text = .error (.noLineBreak text) ↔
      dialect.lineLimit < (utf8 text.toList).length ∧
        ¬ ∃ positions, IsBreaking dialect (utf8 text.toList) positions) ∧
    (breakLine dialect text = .error (.noLineBreak text) ∨
      ∃ lines positions,
        breakLine dialect text =
          .ok (String.ofList ((continuationMark dialect).intercalate lines)) ∧
        lines.flatten = text.toList ∧
        IsBreaking dialect (utf8 text.toList) positions ∧
        lines.map byteSize = pieceSizes (utf8 text.toList).length 0 positions ∧
        lines.length = positions.length + 1 ∧
        ∀ others, IsBreaking dialect (utf8 text.toList) others →
          lines.length ≤ others.length + 1) ∧
    ∀ position, MayCut (utf8 text.toList) position →
      ∃ before rest, text.toList = before ++ rest ∧ byteSize before = position := by
  have whole : ∀ position, MayCut (utf8 text.toList) position →
      ∃ before rest, text.toList = before ++ rest ∧ byteSize before = position := by
    intro position mayCut
    obtain ⟨before, rest, split, size, -, -⟩ := mayCut_iff.mp mayCut
    exact ⟨before, rest, split, size⟩
  cases found : linesOf dialect dialect.lineLimit text.toList with
  | none =>
      have failed : breakLine dialect text = .error (.noLineBreak text) := by rw [breakLine, found]
      have noLines : ∀ lines, ¬ BrokenInto dialect dialect.lineLimit text.toList lines := by
        intro lines broken
        obtain ⟨greedy, isGreedy, -⟩ := exists_linesOf broken
        rw [found] at isGreedy
        cases isGreedy
      have tooLong : dialect.lineLimit < (utf8 text.toList).length := by
        rw [length_utf8]
        exact Nat.lt_of_not_le fun fits => noLines _ (.last fits)
      have noWay : ¬ ∃ positions, IsBreaking dialect (utf8 text.toList) positions := by
        rintro ⟨positions, isBreaking⟩
        obtain ⟨lines, broken, -⟩ := isBreaking_utf8_iff.mp isBreaking
        exact noLines lines broken
      exact ⟨iff_of_true failed ⟨tooLong, noWay⟩, .inl failed, whole⟩
  | some lines =>
      have done := breakLine_of_linesOf found
      have broken := brokenInto_of_linesOf found
      have isBreaking := isBreaking_utf8_iff.mpr ⟨lines, broken, rfl⟩
      refine ⟨iff_of_false (by simp [done]) fun none => none.2 ⟨_, isBreaking⟩,
        .inr ⟨lines, positionsFrom 0 lines, done, broken.flatten_eq, isBreaking, ?_,
          (length_positionsFrom 0 broken.ne_nil).symm, ?_⟩, whole⟩
      · rw [broken.map_byteSize 0, length_utf8, Nat.zero_add]
      · intro others otherWay
        obtain ⟨otherLines, otherBroken, rfl⟩ := isBreaking_utf8_iff.mp otherWay
        obtain ⟨greedy, isGreedy, least⟩ := exists_linesOf otherBroken
        obtain rfl := Option.some.inj (found.symm.trans isGreedy)
        rwa [length_positionsFrom 0 otherBroken.ne_nil]

end ForeignGlue.Source
