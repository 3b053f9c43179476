/-
**What foreign source looks like after any sequence of calls.**

`run_contract` is the contract of the writer. It holds of every sequence of lines that are `Clean`:
one line each, and not mistaken for a continuation. A call that fails changes nothing; the others
leave lines that fit, from which the given lines can be read back, and no word is broken.

* `Line.exists_brokenInto`: what one call adds.
* `text_run`: the text after a run is what its calls add, one after the other.
* `woven_added`, `linesFit_added`: the two invariants, by induction on the run.
-/

import ForeignGlue.Proofs.Outcome
import ForeignGlue.Proofs.Source.Continuation
import ForeignGlue.Source.Foreign

namespace ForeignGlue.Source

open ForeignGlue.Text

variable {dialect : Dialect}

/-! ### One line -/

namespace Line

/-- The text of a line. -/
def text : Line → String
  | .statement text | .directive text => text

/-- **A line that is not mistaken for a continuation.** In free form it does not end in the mark that
one is recognized by. In fixed form it does not start with one, which a statement never does. -/
structure Clean (dialect : Dialect) (line : Line) : Prop where
  oneLine : '\n' ∉ line.text.toList
  ends : dialect = .free → line.text.toList.getLast? ≠ some '&'
  starts : dialect = .fixed → ∀ text, line = .directive text → ¬ gutter <+: text.toList

variable {line : Line}

theorem Clean.layOut_oneLine (clean : line.Clean dialect) : '\n' ∉ (line.layOut dialect).toList := by
  have oneLine := clean.oneLine
  cases line with
  | directive text => exact oneLine
  | statement text =>
      cases dialect with
      | free => exact oneLine
      | fixed =>
          simp only [layOut, trimStart, String.toList_append, String.toList_ofList, List.mem_append,
            not_or]
          refine ⟨by decide, fun member => oneLine ?_⟩
          exact (List.dropWhile_sublist _).subset member

theorem Clean.layOut_ends (clean : line.Clean dialect) :
    dialect = .free → (line.layOut dialect).toList.getLast? ≠ some '&' := by
  rintro rfl
  cases line with
  | directive text => exact clean.ends rfl
  | statement text => exact clean.ends rfl

theorem Clean.layOut_starts (clean : line.Clean dialect) :
    dialect = .fixed → ¬ gutter <+: (line.layOut dialect).toList := by
  rintro rfl
  cases line with
  | directive text => exact clean.starts rfl text rfl
  | statement text =>
      intro isGutter
      have column : ∀ rest : List Char, ¬ gutter <+: [' ', ' ', ' ', ' ', ' ', ' '] ++ rest := by
        intro rest
        simp [gutter, List.cons_prefix_cons]
      refine column (trimStart text).toList ?_
      simpa [layOut] using isGutter

/-- What a call adds to the text, nothing if it fails. -/
def added (dialect : Dialect) (line : Line) : List Char :=
  match line.write dialect with
  | .ok text => text.toList
  | .error _ => []

/-- Whether a call goes through. -/
def isWritten (dialect : Dialect) (line : Line) : Bool :=
  match line.write dialect with
  | .ok _ => true
  | .error _ => false

/-- A call that goes through adds the broken line and its end. -/
theorem exists_brokenInto {text : String} (written : line.write dialect = .ok text) :
    ∃ lines, BrokenInto dialect dialect.lineLimit (line.layOut dialect).toList lines ∧
      text.toList = (continuationMark dialect).intercalate lines ++ ['\n'] := by
  obtain ⟨broken, isBroken, rfl⟩ := map_eq_ok_iff.mp written
  unfold breakLine at isBroken
  split at isBroken
  · next lines found =>
      obtain rfl := Except.ok.inj isBroken
      exact ⟨lines, brokenInto_of_linesOf found, by simp⟩
  · cases isBroken

/-- A line that fits is written as it is laid out. -/
theorem write_of_fits (fits : byteSize (line.layOut dialect).toList ≤ dialect.lineLimit) :
    line.write dialect = .ok (line.layOut dialect ++ "\n") := by
  rw [write, breakLine, linesOf, if_pos fits, map_eq_ok_iff]
  refine ⟨_, rfl, ?_⟩
  rw [List.intercalate_singleton, String.ofList_toList]

end Line

/-! ### Runs -/

/-- The source after a sequence of calls, whether each of them is done or fails. -/
def ForeignText.run (dialect : Dialect) (lines : List Line) : ForeignText :=
  lines.foldl (fun source line => (source.put line).1) { dialect }

/-- What one call does to the source. -/
theorem put_eq (source : ForeignText) (line : Line) :
    (source.put line).1.dialect = source.dialect ∧
      (source.put line).1.text.toList = source.text.toList ++ line.added source.dialect := by
  unfold ForeignText.put Line.added
  cases line.write source.dialect with
  | ok text => simp
  | error fault => simp

/-- **A call that fails changes nothing.** -/
theorem put_of_error {source : ForeignText} {line : Line} {fault : GenerationError}
    (failed : (source.put line).2 = .error fault) : (source.put line).1 = source := by
  unfold ForeignText.put at failed ⊢
  cases written : line.write source.dialect with
  | ok text =>
      rw [written] at failed
      cases failed
  | error fault => rfl

/-- The text after a run is what its calls add. -/
theorem text_run (dialect : Dialect) (lines : List Line) :
    (ForeignText.run dialect lines).text.toList = lines.flatMap (Line.added dialect) := by
  have from_source (source : ForeignText) :
      (lines.foldl (fun source line => (source.put line).1) source).text.toList =
        source.text.toList ++ lines.flatMap (Line.added source.dialect) := by
    induction lines generalizing source with
    | nil => simp
    | cons line lines ih =>
        obtain ⟨sameDialect, added⟩ := put_eq source line
        rw [List.foldl_cons, ih, sameDialect, added, List.flatMap_cons, List.append_assoc]
  exact (from_source { dialect }).trans (List.nil_append _)

/-- The lines that went through, as they were laid out, each with its end. -/
def laidOut (dialect : Dialect) (lines : List Line) : List Char :=
  (lines.filter (Line.isWritten dialect)).flatMap fun line => (line.layOut dialect).toList ++ ['\n']

/-- **The text of a run is its lines with marks woven in.** It can follow the end of a line. -/
theorem woven_added {lines : List Line} (clean : ∀ line ∈ lines, line.Clean dialect) :
    Woven dialect (lines.flatMap (Line.added dialect)) (laidOut dialect lines) ∧
      ¬ continuationMark dialect <+: '\n' :: lines.flatMap (Line.added dialect) := by
  induction lines with
  | nil =>
      refine ⟨.nil, ?_⟩
      cases dialect <;> decide
  | cons line lines ih =>
      obtain ⟨here, later⟩ := List.forall_mem_cons.mp clean
      obtain ⟨woven, seam⟩ := ih later
      rw [List.flatMap_cons, Line.added, laidOut]
      cases written : line.write dialect with
      | error fault =>
          rw [List.filter_cons_of_neg (by simp [Line.isWritten, written])]
          exact ⟨woven, seam⟩
      | ok text =>
          obtain ⟨pieces, broken, spelled⟩ := Line.exists_brokenInto written
          rw [List.filter_cons_of_pos (by simp [Line.isWritten, written]), List.flatMap_cons]
          simp only [spelled, List.append_assoc, List.singleton_append]
          exact ⟨broken.woven here.layOut_oneLine here.layOut_ends seam woven,
            broken.reads_no_mark here.layOut_oneLine here.layOut_starts _⟩

/-- **The lines of a run fit.** -/
theorem linesFit_added {lines : List Line} (clean : ∀ line ∈ lines, line.Clean dialect) :
    LinesFit dialect.lineLimit (lines.flatMap (Line.added dialect)) := by
  induction lines with
  | nil =>
      intro line member
      rw [List.mem_singleton.mp member]
      exact Nat.zero_le _
  | cons line lines ih =>
      obtain ⟨here, later⟩ := List.forall_mem_cons.mp clean
      rw [List.flatMap_cons, Line.added]
      cases written : line.write dialect with
      | error fault => exact ih later
      | ok text =>
          obtain ⟨pieces, broken, spelled⟩ := Line.exists_brokenInto written
          simp only [spelled, List.append_assoc, List.singleton_append]
          show LinesFit dialect.lineLimit ([] ++ (continuationMark dialect).intercalate pieces ++
            '\n' :: lines.flatMap (Line.added dialect))
          exact broken.linesFit here.layOut_oneLine (by simp) (Nat.zero_add _) (ih later)

/-! ### Words -/

/-- A byte of a word: an ASCII letter, digit or underscore, or a byte outside ASCII. -/
def isWordByte (byte : UInt8) : Bool :=
  isNameChar (Char.ofNat byte.toNat) || 128 ≤ byte.toNat

/-- What may start a line starts with a byte of no word. -/
theorem isWordByte_of_mayStartLine {cs : List Char} (starts : mayStartLine cs) :
    ∀ byte ∈ (cs.flatMap String.utf8EncodeChar).head?, isWordByte byte = false := by
  cases cs with
  | nil => cases starts
  | cons c cs =>
      simp only [mayStartLine, isWordChar, Bool.not_or, Bool.not_not, Bool.and_eq_true,
        Bool.not_eq_true'] at starts
      obtain ⟨noName, ascii⟩ := starts
      have small : c.toNat < 128 := by simpa [isAscii] using ascii
      have encoded : String.utf8EncodeChar c = [UInt8.ofNat c.toNat] := by
        rw [String.utf8EncodeChar]
        exact if_pos (Nat.le_of_lt_succ small)
      have sameCode : (UInt8.ofNat c.toNat).toNat = c.toNat :=
        UInt8.toNat_ofNat_of_lt (Nat.lt_trans small (by decide))
      intro byte isFirst
      rw [List.flatMap_cons, encoded] at isFirst
      obtain rfl := Option.some.inj isFirst
      rw [isWordByte, sameCode, Char.ofNat_toNat, noName]
      simpa using small

/-! ### The contract -/

/-- **The contract of the writer of foreign source.** After any sequence of calls every line has at
most the bytes the dialect allows; without the marks the text is that of the lines that went through,
as they were laid out; and what follows a mark does not start with a byte of a word. A call that
fails changes nothing, and one for a line that fits does not fail. -/
theorem run_contract {dialect : Dialect} {lines : List Line}
    (clean : ∀ line ∈ lines, line.Clean dialect) :
    (∀ line ∈ splitAtChars (· == '\n') (ForeignText.run dialect lines).text.toList,
      byteSize line ≤ dialect.lineLimit) ∧
    rejoin dialect (ForeignText.run dialect lines).text =
      String.join ((lines.filter (Line.isWritten dialect)).map fun line =>
        line.layOut dialect ++ "\n") ∧
    (∀ before after, (ForeignText.run dialect lines).text.toList =
        before ++ (continuationMark dialect ++ after) →
      ∀ byte ∈ (after.flatMap String.utf8EncodeChar).head?, isWordByte byte = false) ∧
    (∀ (source : ForeignText) line fault, (source.put line).2 = .error fault →
      (source.put line).1 = source) ∧
    (∀ line : Line, byteSize (line.layOut dialect).toList ≤ dialect.lineLimit →
      line.isWritten dialect) := by
  obtain ⟨woven, -⟩ := woven_added clean
  rw [text_run]
  refine ⟨linesFit_added clean, ?_, ?_, ?_, ?_⟩
  · rw [← String.toList_inj, rejoin, text_run, woven.erase]
    simp [laidOut, String.toList_join, List.flatMap_map]
  · intro before after found
    exact isWordByte_of_mayStartLine (woven.starts found)
  · intro source line fault failed
    exact put_of_error failed
  · intro line fits
    rw [Line.isWritten, Line.write_of_fits fits]

/-- A statement that needs two lines, a word that no line can hold, and a directive. -/
def sampleLines : List Line :=
  [.statement "  call setpointers(first_variable, second_variable, third_variable, fourth_one)",
    .statement (String.ofList (List.replicate 67 'x')),
    .directive "   Use(group)"]

theorem run_contract_sample :
    (∀ line ∈ sampleLines, line.Clean .fixed) ∧
    (ForeignText.run .fixed sampleLines).text =
      "      call setpointers(first_variable, second_variable, third_variable,\n" ++
      "     & fourth_one)\n   Use(group)\n" ∧
    rejoin .fixed (ForeignText.run .fixed sampleLines).text =
      "      call setpointers(first_variable, second_variable, third_variable, fourth_one)\n" ++
      "   Use(group)\n" := by
  have clean : ∀ line ∈ sampleLines, line.Clean .fixed := by
    intro line member
    simp only [sampleLines, List.mem_cons, List.not_mem_nil, or_false] at member
    rcases member with rfl | rfl | rfl
    · exact ⟨by decide +kernel, by simp, by simp⟩
    · exact ⟨by decide +kernel, by simp, by simp⟩
    · refine ⟨by decide +kernel, by simp, ?_⟩
      rintro - _ ⟨⟩
      decide +kernel
  have written : String.join ((sampleLines.filter (Line.isWritten .fixed)).map fun line =>
      line.layOut .fixed ++ "\n") =
      "      call setpointers(first_variable, second_variable, third_variable, fourth_one)\n" ++
      "   Use(group)\n" := by decide +kernel
  exact ⟨clean, by decide +kernel, (run_contract clean).2.1.trans written⟩

end ForeignGlue.Source
