/-
**Line ends turned into blanks.**

A line end and a blank take one byte each, and both are no word characters. So a statement is cut at
the same places after line ends in it have become blanks:

* `Text.Flattens`: a text is another one in which some line ends have become blanks;
* `Text.Flattens.lastCut`, `Text.Flattens.linesOf`: the cuts of the two stand at the same places;
* `alike_write`: the two lines are written alike, and the texts are the same only if the lines were;
* `alike_finish`, `eq_of_finish_eq`: so are drafts, which are the same only if every piece is.
-/

import ForeignGlue.Proofs.Generation.Demand
import ForeignGlue.Proofs.Source.FewestLines

namespace ForeignGlue

open ForeignGlue.Text

/-! ### Texts -/

namespace Text

/-- **The second text is the first one with some line ends turned into blanks.** -/
def Flattens (cs ds : List Char) : Prop :=
  List.Forall₂ (fun c d => d = c ∨ c = '\n' ∧ d = ' ') cs ds

namespace Flattens

variable {cs ds : List Char}

theorem refl (cs : List Char) : Flattens cs cs :=
  List.forall₂_same.mpr fun _ _ => .inl rfl

theorem append {es fs : List Char} (flat : Flattens cs ds) (flatToo : Flattens es fs) :
    Flattens (cs ++ es) (ds ++ fs) :=
  List.rel_append flat flatToo

theorem byteSize_eq (flat : Flattens cs ds) : byteSize ds = byteSize cs := by
  induction flat with
  | nil => rfl
  | cons here _ ih =>
      rw [byteSize, byteSize, ih]
      rcases here with rfl | ⟨rfl, rfl⟩
      · rfl
      · rfl

theorem mayStartLine_eq (flat : Flattens cs ds) : Source.mayStartLine ds = Source.mayStartLine cs := by
  cases flat with
  | nil => rfl
  | cons here _ =>
      rcases here with rfl | ⟨rfl, rfl⟩
      · rfl
      · have blank : Source.isWordChar ' ' = Source.isWordChar '\n' := by decide
        exact congrArg not blank

/-- **The last cut** stands at the same place. -/
theorem lastCut (flat : Flattens cs ds) (room : Nat) :
    Option.Rel (fun first second => Flattens first.1 second.1 ∧ Flattens first.2 second.2)
      (Source.lastCut room cs) (Source.lastCut room ds) := by
  induction flat generalizing room with
  | nil => exact .none
  | @cons c d cs ds here rest ih =>
      have size : d.utf8Size = c.utf8Size := by
        rcases here with rfl | ⟨rfl, rfl⟩
        · rfl
        · rfl
      rw [Source.lastCut, Source.lastCut, size, mayStartLine_eq rest]
      split
      · have later := ih (room - c.utf8Size)
        generalize Source.lastCut (room - c.utf8Size) cs = cut,
          Source.lastCut (room - c.utf8Size) ds = flatCut at later ⊢
        cases later with
        | some both => exact .some ⟨.cons here both.1, both.2⟩
        | none =>
            dsimp only
            split
            · exact .some ⟨.cons here .nil, rest⟩
            · exact .none
      · exact .none

/-- **The lines of a statement** are cut alike. -/
theorem linesOf (flat : Flattens cs ds) (dialect : Dialect) (room : Nat) :
    Option.Rel (List.Forall₂ Flattens) (Source.linesOf dialect room cs)
      (Source.linesOf dialect room ds) := by
  fun_induction Source.linesOf dialect room cs generalizing ds with
  | case1 room cs fits =>
      rw [Source.linesOf, if_pos (flat.byteSize_eq ▸ fits)]
      exact .some (.cons flat .nil)
  | case2 room cs tooLong noCut =>
      have cut := flat.lastCut (Source.continuedRoom dialect room)
      rw [noCut] at cut
      rw [Source.linesOf, if_neg (flat.byteSize_eq ▸ tooLong)]
      split
      · exact .none
      · next found =>
          rw [found] at cut
          cases cut
  | case3 room cs tooLong line rest found shorter ih =>
      have cut := flat.lastCut (Source.continuedRoom dialect room)
      rw [found] at cut
      generalize isFlat : Source.lastCut (Source.continuedRoom dialect room) ds = flatCut at cut
      cases cut with
      | @some _ pair both =>
          obtain ⟨flatLine, flatRest⟩ := pair
          rw [Source.linesOf_of_lastCut (flat.byteSize_eq ▸ tooLong) isFlat]
          have later := ih both.2
          generalize Source.linesOf dialect (Source.continuationRoom dialect) rest = lines,
            Source.linesOf dialect (Source.continuationRoom dialect) flatRest = flatLines at later ⊢
          cases later with
          | some each => exact .some (.cons both.1 each)
          | none => exact .none

/-- Lines that are put together stay related. -/
theorem intercalate {lines others : List (List Char)} (mark : List Char)
    (each : List.Forall₂ Flattens lines others) :
    Flattens (mark.intercalate lines) (mark.intercalate others) := by
  induction each with
  | nil => exact .nil
  | cons here rest ih =>
      cases rest with
      | nil => simpa using here
      | cons next rest =>
          rw [List.intercalate_cons_cons, List.intercalate_cons_cons]
          exact (here.append (refl mark)).append ih

/-- Lines that give the same text when they are put together are the same. Related lines are of one
length, so each ends where the other does. -/
theorem eq_of_intercalate_eq {lines others : List (List Char)} {mark : List Char}
    (each : List.Forall₂ Flattens lines others)
    (same : mark.intercalate lines = mark.intercalate others) : lines = others := by
  induction each with
  | nil => rfl
  | cons here rest ih =>
      cases rest with
      | nil => simpa using same
      | cons next rest =>
          rw [List.intercalate_cons_cons, List.intercalate_cons_cons, List.append_assoc,
            List.append_assoc] at same
          obtain ⟨sameHere, others⟩ := List.append_inj same here.length_eq
          rw [sameHere, ih (List.append_cancel_left others)]

end Flattens

theorem flattens_flattenLines (text : String) : Flattens text.toList (flattenLines text).toList := by
  rw [flattenLines, String.toList_ofList]
  refine List.forall₂_map_right_iff.mpr (List.forall₂_same.mpr fun c _ => ?_)
  by_cases isEnd : c = '\n'
  · exact .inr ⟨isEnd, if_pos (beq_iff_eq.mpr isEnd)⟩
  · exact .inl (if_neg fun same => isEnd (beq_iff_eq.mp same))

theorem newline_not_mem_flattenLines (text : String) : '\n' ∉ (flattenLines text).toList := by
  rw [flattenLines, String.toList_ofList]
  intro member
  obtain ⟨c, -, isEnd⟩ := List.mem_map.mp member
  split at isEnd
  · cases isEnd
  · next other => exact other (beq_iff_eq.mpr isEnd)

theorem flattenLines_eq_self_iff {text : String} : flattenLines text = text ↔ '\n' ∉ text.toList := by
  constructor
  · intro same
    rw [← same]
    exact newline_not_mem_flattenLines text
  · intro oneLine
    rw [flattenLines, ← String.toList_inj, String.toList_ofList]
    refine (List.map_congr_left fun c member => if_neg ?_).trans (List.map_id' _)
    rintro isEnd
    rw [beq_iff_eq.mp isEnd] at member
    exact oneLine member

end Text

/-! ### Lines -/

/-- The second error is the first one, or tells of the same line after it was flattened. -/
inductive GenerationError.Flattens : GenerationError → GenerationError → Prop
  | same (error : GenerationError) : Flattens error error
  | noLineBreak {line flatLine : String} (flat : Text.Flattens line.toList flatLine.toList) :
      Flattens (.noLineBreak line) (.noLineBreak flatLine)

namespace Source

/-- **Two texts come about alike**: the second text, or the line that cannot be broken, is the first one
with some line ends turned into blanks. -/
abbrev WrittenAlike : Except GenerationError String → Except GenerationError String → Prop :=
  Alike (fun text flatText => Flattens text.toList flatText.toList) GenerationError.Flattens

theorem alike_breakLine {dialect : Dialect} {text flatText : String}
    (flat : Flattens text.toList flatText.toList) :
    Alike (fun whole flatWhole => Flattens whole.toList flatWhole.toList ∧
        (whole = flatWhole → text = flatText)) GenerationError.Flattens
      (breakLine dialect text) (breakLine dialect flatText) := by
  have lines := flat.linesOf dialect dialect.lineLimit
  unfold breakLine
  generalize broken : linesOf dialect dialect.lineLimit text.toList = found,
    flatBroken : linesOf dialect dialect.lineLimit flatText.toList = flatFound at lines ⊢
  cases lines with
  | none => exact .error (.noLineBreak flat)
  | some each =>
      refine .ok ⟨?_, fun same => ?_⟩
      · rw [String.toList_ofList, String.toList_ofList]
        exact Flattens.intercalate _ each
      · have sameLines := Flattens.eq_of_intercalate_eq each (String.ofList_injective same)
        rw [← String.toList_inj, ← (brokenInto_of_linesOf broken).flatten_eq,
          ← (brokenInto_of_linesOf flatBroken).flatten_eq, sameLines]

/-- **A line is written alike**, and the text is the same only if the line was. -/
theorem alike_write {dialect : Dialect} {line flatLine : Line}
    (flat : Flattens (line.layOut dialect).toList (flatLine.layOut dialect).toList) :
    Alike (fun text flatText => Flattens text.toList flatText.toList ∧
        (text = flatText → line.layOut dialect = flatLine.layOut dialect)) GenerationError.Flattens
      (line.write dialect) (flatLine.write dialect) := by
  refine (alike_breakLine flat).map fun whole flatWhole both => ⟨?_, fun same => ?_⟩
  · rw [String.toList_append, String.toList_append]
    exact both.1.append (.refl _)
  · exact both.2 ((String.append_left_inj _).mp same)

/-! ### Drafts -/

namespace Draft

variable {first second : Draft String}

theorem flattens_join {texts flatTexts : List String}
    (each : List.Forall₂ (fun text flatText => Flattens text.toList flatText.toList) texts flatTexts) :
    Flattens (String.join texts).toList (String.join flatTexts).toList := by
  induction each with
  | nil => exact .nil
  | cons here _ ih =>
      rw [String.join_cons, String.join_cons, String.toList_append, String.toList_append]
      exact here.append ih

theorem eq_of_join_eq {texts flatTexts : List String}
    (each : List.Forall₂ (fun text flatText => Flattens text.toList flatText.toList) texts flatTexts)
    (same : String.join texts = String.join flatTexts) : texts = flatTexts := by
  induction each with
  | nil => rfl
  | cons here _ ih =>
      rw [← String.toList_inj, String.join_cons, String.join_cons, String.toList_append,
        String.toList_append] at same
      obtain ⟨sameHere, sameRest⟩ := List.append_inj same here.length_eq
      rw [String.toList_inj.mp sameHere, ih (String.toList_inj.mp sameRest)]

/-- **Drafts finish alike** if their pieces do. -/
theorem alike_finish (each : List.Forall₂ WrittenAlike first second) :
    WrittenAlike first.finish second.finish := by
  rw [finish_eq_map_collect, finish_eq_map_collect]
  exact (Alike.collect each).map fun _ _ => flattens_join

/-- Drafts of the same text have the same pieces: what was flattened cannot be made up for. -/
theorem eq_of_finish_eq (each : List.Forall₂ WrittenAlike first second) {text : String}
    (done : first.finish = .ok text) (same : second.finish = .ok text) : first = second := by
  obtain ⟨texts, rfl, rfl⟩ := finish_eq_ok_iff.mp done
  obtain ⟨flatTexts, rfl, joined⟩ := finish_eq_ok_iff.mp same
  have related : List.Forall₂ (fun text flatText => Flattens text.toList flatText.toList)
      texts flatTexts := by
    refine (List.forall₂_map_left_iff.mp (List.forall₂_map_right_iff.mp each)).imp ?_
    rintro _ _ ⟨related⟩
    exact related
  rw [eq_of_join_eq related joined]

end Draft

end Source

end ForeignGlue
