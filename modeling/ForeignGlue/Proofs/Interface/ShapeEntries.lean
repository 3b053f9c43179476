/-
**The entries of a shape text.**

A shape is written as one entry for each dimension, with commas between them, and is cut at the commas
outside parentheses when the foreign side needs it. The cut counts open parentheses and passes over
one that closes nothing.

* `IsEntry`: a text in which parentheses pair up and no comma stands outside of them, as a grammar that
  knows no count;
* `splitOutside_intercalate`: parts that are put together with commas are cut apart again, and
  `parted_splitOutside`: every cut gives such parts, also of a text whose parentheses do not pair up;
* `foreignForm_shapeText`: the foreign form of a shape has one entry for each dimension, and a foreign
  form is its own foreign form.
-/

import ForeignGlue.Interface.Bound
import ForeignGlue.Proofs.Text.Respelling

namespace ForeignGlue

open ForeignGlue.Text

/-! ### Texts that stay in one piece -/

/-- Parentheses pair up. -/
inductive IsBalanced : List Char → Prop
  | nil : IsBalanced []
  | plain {c : Char} {cs : List Char} (opens : c ≠ '(') (closes : c ≠ ')')
      (rest : IsBalanced cs) : IsBalanced (c :: cs)
  | nested {inner cs : List Char} (inside : IsBalanced inner) (rest : IsBalanced cs) :
      IsBalanced ('(' :: (inner ++ ')' :: cs))

/-- Parentheses pair up, and no comma stands outside of them. -/
inductive IsEntry : List Char → Prop
  | nil : IsEntry []
  | plain {c : Char} {cs : List Char} (opens : c ≠ '(') (closes : c ≠ ')') (parts : c ≠ ',')
      (rest : IsEntry cs) : IsEntry (c :: cs)
  | nested {inner cs : List Char} (inside : IsBalanced inner) (rest : IsEntry cs) :
      IsEntry ('(' :: (inner ++ ')' :: cs))

theorem IsBalanced.map_toLower {cs : List Char} (balanced : IsBalanced cs) :
    IsBalanced (cs.map Char.toLower) := by
  induction balanced with
  | nil => exact .nil
  | plain opens closes _ ih =>
      exact .plain (toLower_ne (by decide) opens) (toLower_ne (by decide) closes) ih
  | nested _ _ insideIh restIh =>
      rw [List.map_cons, List.map_append, List.map_cons]
      exact .nested insideIh restIh

namespace IsEntry

variable {cs : List Char}

theorem isBalanced (entry : IsEntry cs) : IsBalanced cs := by
  induction entry with
  | nil => exact .nil
  | plain opens closes _ _ ih => exact .plain opens closes ih
  | nested inside _ ih => exact .nested inside ih

/-- The case of letters does not matter for entries. -/
theorem map_toLower (entry : IsEntry cs) : IsEntry (cs.map Char.toLower) := by
  induction entry with
  | nil => exact .nil
  | plain opens closes parts _ ih =>
      exact .plain (toLower_ne (by decide) opens) (toLower_ne (by decide) closes)
        (toLower_ne (by decide) parts) ih
  | nested inside _ ih =>
      rw [List.map_cons, List.map_append, List.map_cons]
      exact .nested inside.map_toLower ih

theorem append {ds : List Char} (first : IsEntry cs) (second : IsEntry ds) : IsEntry (cs ++ ds) := by
  induction first with
  | nil => exact second
  | plain opens closes parts _ ih => exact .plain opens closes parts ih
  | nested inside _ ih =>
      rw [List.cons_append, List.append_assoc, List.cons_append]
      exact .nested inside ih

/-- A text without parentheses and commas. -/
theorem of_plain (each : ∀ c ∈ cs, c ≠ '(' ∧ c ≠ ')' ∧ c ≠ ',') : IsEntry cs := by
  induction cs with
  | nil => exact .nil
  | cons c cs ih =>
      obtain ⟨⟨opens, closes, parts⟩, later⟩ := List.forall_mem_cons.mp each
      exact .plain opens closes parts (ih later)

/-- A text in parentheses, in which commas do not count. -/
theorem enclosed (inside : IsBalanced cs) : IsEntry ('(' :: (cs ++ [')'])) :=
  .nested inside .nil

end IsEntry

/-! ### The count of open parentheses -/

/-- The parentheses that are open after a character. One that closes nothing is passed over. -/
def nextDepth (depth : Nat) (c : Char) : Nat :=
  if c == '(' then depth + 1 else if c == ')' then depth - 1 else depth

theorem nextDepth_toLower (depth : Nat) (c : Char) : nextDepth depth c.toLower = nextDepth depth c := by
  have letters : ∀ letter, isNameStart letter → nextDepth depth letter = depth := by
    intro letter start
    have opens : letter ≠ '(' := by
      rintro rfl
      cases start
    have closes : letter ≠ ')' := by
      rintro rfl
      cases start
    rw [nextDepth, if_neg (by simpa using opens), if_neg (by simpa using closes)]
  exact apply_toLower letters c

/-- The parentheses that are open after some characters. -/
def depthAfter (depth : Nat) (cs : List Char) : Nat :=
  cs.foldl nextDepth depth

/-- The count goes on where it stopped. -/
theorem depthAfter_append (depth : Nat) (cs ds : List Char) :
    depthAfter depth (cs ++ ds) = depthAfter (depthAfter depth cs) ds :=
  List.foldl_append

theorem depthAfter_map_toLower (depth : Nat) (cs : List Char) :
    depthAfter depth (cs.map Char.toLower) = depthAfter depth cs := by
  rw [depthAfter, List.foldl_map]
  simp only [nextDepth_toLower]
  rfl

/-- No comma comes where the count is zero. -/
def Uncut : Nat → List Char → Prop
  | _, [] => True
  | depth, c :: cs => ¬(c = ',' ∧ depth = 0) ∧ Uncut (nextDepth depth c) cs

/-- A text is not cut if neither part is, from the count before it. -/
theorem uncut_append {depth : Nat} {cs ds : List Char} :
    Uncut depth (cs ++ ds) ↔ Uncut depth cs ∧ Uncut (depthAfter depth cs) ds := by
  induction cs generalizing depth with
  | nil =>
      rw [Uncut, true_and]
      rfl
  | cons c cs ih =>
      rw [List.cons_append, Uncut, Uncut, ih, and_assoc]
      rfl

theorem uncut_map_toLower {depth : Nat} {cs : List Char} :
    Uncut depth (cs.map Char.toLower) ↔ Uncut depth cs := by
  induction cs generalizing depth with
  | nil => rfl
  | cons c cs ih =>
      rw [List.map_cons, Uncut, Uncut, ih, nextDepth_toLower, toLower_eq_iff (by decide)]

/-- Where parentheses pair up, the count comes back to what it was, and inside other parentheses no
comma is cut at. -/
theorem IsBalanced.count {cs : List Char} (balanced : IsBalanced cs) (depth : Nat) :
    depthAfter depth cs = depth ∧ Uncut (depth + 1) cs := by
  induction balanced generalizing depth with
  | nil => exact ⟨rfl, trivial⟩
  | @plain c cs opens closes _ ih =>
      have stays (depth : Nat) : nextDepth depth c = depth := by
        rw [nextDepth, if_neg (by simpa using opens), if_neg (by simpa using closes)]
      refine ⟨?_, ?_, ?_⟩
      · show depthAfter (nextDepth depth c) cs = depth
        rw [stays]
        exact (ih depth).1
      · exact fun cut => Nat.succ_ne_zero _ cut.2
      · rw [stays]
        exact (ih depth).2
  | @nested inner cs _ _ insideIh restIh =>
      have around (depth : Nat) :
          depthAfter depth ('(' :: (inner ++ ')' :: cs)) = depthAfter depth cs := by
        show depthAfter (depth + 1) (inner ++ ')' :: cs) = _
        rw [depthAfter_append, (insideIh (depth + 1)).1]
        rfl
      refine ⟨(around depth).trans (restIh depth).1, fun cut => Nat.succ_ne_zero _ cut.2, ?_⟩
      show Uncut (depth + 1 + 1) (inner ++ ')' :: cs)
      rw [uncut_append, (insideIh (depth + 1 + 1)).1]
      exact ⟨(insideIh (depth + 1)).2, fun cut => Nat.succ_ne_zero _ cut.2, (restIh depth).2⟩

/-- An entry leaves no parenthesis open and is not cut. -/
theorem IsEntry.count {cs : List Char} (entry : IsEntry cs) : depthAfter 0 cs = 0 ∧ Uncut 0 cs := by
  induction entry with
  | nil => exact ⟨rfl, trivial⟩
  | @plain c cs opens closes parts _ ih =>
      have stays : nextDepth 0 c = 0 := by
        rw [nextDepth, if_neg (by simpa using opens), if_neg (by simpa using closes)]
      refine ⟨?_, fun cut => parts cut.1, ?_⟩
      · show depthAfter (nextDepth 0 c) cs = 0
        rw [stays]
        exact ih.1
      · rw [stays]
        exact ih.2
  | @nested inner cs inside _ ih =>
      refine ⟨?_, fun cut => absurd cut.1 (by decide), ?_⟩
      · show depthAfter 1 (inner ++ ')' :: cs) = 0
        rw [depthAfter_append, (inside.count 1).1]
        exact ih.1
      · show Uncut 1 (inner ++ ')' :: cs)
        rw [uncut_append, (inside.count 1).1]
        exact ⟨(inside.count 0).2, fun cut => absurd cut.1 (by decide), ih.2⟩

/-! ### Cutting and putting together -/

theorem splitOutside_ne_nil (depth : Nat) (cs : List Char) : splitOutside depth cs ≠ [] := by
  cases cs with
  | nil => exact List.cons_ne_nil _ _
  | cons c cs =>
      rw [splitOutside]
      split
      · exact List.cons_ne_nil _ _
      · dsimp only
        rw [← nextDepth]
        cases splitOutside (nextDepth depth c) cs with
        | nil => exact List.cons_ne_nil _ _
        | cons part parts => exact List.cons_ne_nil _ _

/-- A character that is not cut at is part of what follows it. -/
theorem splitOutside_cons {depth : Nat} {c : Char} (uncut : ¬(c = ',' ∧ depth = 0)) (cs : List Char) :
    splitOutside depth (c :: cs) =
      (splitOutside (nextDepth depth c) cs).modifyHead (c :: ·) := by
  have kept : ¬((c == ',' && depth == 0) = true) := by simpa using uncut
  rw [splitOutside, if_neg kept]
  dsimp only
  rw [← nextDepth]
  cases found : splitOutside (nextDepth depth c) cs with
  | nil => exact absurd found (splitOutside_ne_nil _ _)
  | cons part parts => rfl

/-- A text that is not cut stays with the first part of what follows. -/
theorem splitOutside_append {depth : Nat} {cs : List Char} (uncut : Uncut depth cs)
    (ds : List Char) : splitOutside depth (cs ++ ds) =
      (splitOutside (depthAfter depth cs) ds).modifyHead (cs ++ ·) := by
  induction cs generalizing depth with
  | nil =>
      show splitOutside depth ds = (splitOutside depth ds).modifyHead id
      cases splitOutside depth ds with
      | nil => rfl
      | cons part parts => rfl
  | cons c cs ih =>
      rw [List.cons_append, splitOutside_cons uncut.1, ih uncut.2, List.modifyHead_modifyHead]
      rfl

theorem splitOutside_of_uncut {depth : Nat} {cs : List Char} (uncut : Uncut depth cs) :
    splitOutside depth cs = [cs] := by
  have whole := splitOutside_append uncut []
  rw [List.append_nil] at whole
  rw [whole, splitOutside, List.modifyHead_cons, List.append_nil]

/-- The first of several parts ends at the comma behind it. -/
theorem splitOutside_comma {depth : Nat} {cs : List Char} (uncut : Uncut depth cs)
    (closed : depthAfter depth cs = 0) (ds : List Char) :
    splitOutside depth (cs ++ ',' :: ds) = cs :: splitOutside 0 ds := by
  rw [splitOutside_append uncut, closed, splitOutside, if_pos (by decide), List.modifyHead_cons,
    List.append_nil]

/-- Parts that a text can be cut into, of which the first is read with some parentheses open: none is
cut itself, and all but the last end where the count is zero. -/
inductive Parted : Nat → List (List Char) → Prop
  | last {depth : Nat} {part : List Char} (uncut : Uncut depth part) : Parted depth [part]
  | more {depth : Nat} {part : List Char} {parts : List (List Char)} (uncut : Uncut depth part)
      (closed : depthAfter depth part = 0) (rest : Parted 0 parts) : Parted depth (part :: parts)

/-- **Parts are found again** when they are put together with commas. -/
theorem splitOutside_intercalate {depth : Nat} {parts : List (List Char)}
    (parted : Parted depth parts) : splitOutside depth ([','].intercalate parts) = parts := by
  induction parted with
  | last uncut =>
      rw [List.intercalate_singleton]
      exact splitOutside_of_uncut uncut
  | @more depth part parts uncut closed rest ih =>
      cases parts with
      | nil => cases rest
      | cons next parts =>
          rw [List.intercalate_cons_cons, List.append_assoc, List.singleton_append,
            splitOutside_comma uncut closed, ih]

/-- **Every cut gives parts**, also if the parentheses of the text do not pair up. -/
theorem parted_splitOutside (depth : Nat) (cs : List Char) : Parted depth (splitOutside depth cs) := by
  induction cs generalizing depth with
  | nil => exact .last trivial
  | cons c cs ih =>
      by_cases cut : c = ',' ∧ depth = 0
      · obtain ⟨rfl, rfl⟩ := cut
        have here : splitOutside 0 (',' :: cs) = [] :: splitOutside 0 cs := rfl
        rw [here]
        exact .more trivial rfl (ih 0)
      · rw [splitOutside_cons cut]
        -- the character joins the first part, which was read one character later
        have later := ih (nextDepth depth c)
        generalize splitOutside (nextDepth depth c) cs = parts at later ⊢
        cases later with
        | last uncut => exact .last ⟨cut, uncut⟩
        | more uncut closed rest => exact .more ⟨cut, uncut⟩ closed rest

/-- Entries are parts. -/
theorem Parted.of_isEntry {entries : List (List Char)} (filled : entries ≠ [])
    (each : ∀ entry ∈ entries, IsEntry entry) : Parted 0 entries := by
  induction entries with
  | nil => exact absurd rfl filled
  | cons entry entries ih =>
      obtain ⟨here, later⟩ := List.forall_mem_cons.mp each
      cases entries with
      | nil => exact .last here.count.2
      | cons next entries =>
          exact .more here.count.2 here.count.1 (ih (List.cons_ne_nil _ _) later)

/-- Parts stay parts if each is replaced by one that is not cut and leaves no more open. -/
theorem Parted.mapIdx {parts : List (List Char)} (parted : Parted 0 parts)
    {replace : Nat → List Char → List Char}
    (uncut : ∀ index part, Uncut 0 part → Uncut 0 (replace index part))
    (closed : ∀ index part, depthAfter 0 part = 0 → depthAfter 0 (replace index part) = 0) :
    Parted 0 (parts.mapIdx replace) := by
  induction parts generalizing replace with
  | nil => cases parted
  | cons part parts ih =>
      rw [List.mapIdx_cons]
      cases parted with
      | last here => exact .last (uncut 0 part here)
      | more here ends rest =>
          exact .more (uncut 0 part here) (closed 0 part ends)
            (ih rest (fun index => uncut (index + 1)) fun index => closed (index + 1))

/-! ### The foreign form -/

/-- The characters of an entry of the foreign form. -/
def foreignChars (index : Nat) (part : List Char) : List Char :=
  (foreignPart part (index + 1)).toList.map Char.toLower

/-- A reference to the vector of extents. -/
def extentReference (position : Nat) : String :=
  s!"dims__({position})"

theorem toList_extentReference (position : Nat) : (extentReference position).toList =
    ['d', 'i', 'm', 's', '_', '_', '('] ++ (Nat.toDigits 10 position ++ [')']) := by
  have number : (toString position).toList = Nat.toDigits 10 position := String.toList_ofList
  rw [← number]
  simp [extentReference, toString]

/-- A reference to an extent is one entry: its number stands in parentheses. -/
theorem isEntry_extentReference (position : Nat) : IsEntry (extentReference position).toList := by
  have digits : IsEntry (Nat.toDigits 10 position) := by
    refine .of_plain fun c member => ?_
    have digit := Nat.isDigit_of_mem_toDigits (by decide) (by decide) member
    refine ⟨?_, ?_, ?_⟩
    · rintro rfl
      cases digit
    · rintro rfl
      cases digit
    · rintro rfl
      cases digit
  have label : IsEntry ['d', 'i', 'm', 's', '_', '_'] := .of_plain (forall_mem_of_all (by decide))
  rw [toList_extentReference]
  exact label.append (.enclosed digits.isBalanced)

/-- A dimension that is left open is replaced by a reference to its extent. -/
theorem foreignChars_of_open {part : List Char} (isOpen : trimChars part = [':']) (index : Nat) :
    foreignChars index part = (extentReference (index + 1)).toList := by
  have lowered : (Nat.toDigits 10 (index + 1)).map Char.toLower = Nat.toDigits 10 (index + 1) := by
    refine (List.map_congr_left fun c member => ?_).trans (List.map_id _)
    have digit := Nat.isDigit_of_mem_toDigits (by decide) (by decide) member
    refine toLower_of_not_isNameStart ?_
    rw [← Bool.not_eq_true]
    intro start
    rw [not_isDigit_of_isNameStart start] at digit
    cases digit
  rw [foreignChars, foreignPart, if_pos (by simpa using isOpen)]
  show (extentReference (index + 1)).toList.map _ = _
  rw [toList_extentReference, List.map_append, List.map_append, lowered]
  rfl

/-- Any other dimension is put in lower case. -/
theorem foreignChars_of_closed {part : List Char} (closed : trimChars part ≠ [':']) (index : Nat) :
    foreignChars index part = part.map Char.toLower := by
  rw [foreignChars, foreignPart, if_neg (by simpa using closed), String.toList_ofList]

/-- What stands in an entry for an open extent is no open extent itself. -/
theorem trimChars_foreignChars (index : Nat) (part : List Char) :
    trimChars (foreignChars index part) ≠ [':'] := by
  by_cases isOpen : trimChars part = [':']
  · intro same
    have letter : 'd' ∈ trimChars (foreignChars index part) := by
      refine mem_trimChars (by decide) ?_
      rw [foreignChars_of_open isOpen, toList_extentReference]
      exact List.mem_cons_self
    rw [same] at letter
    cases List.mem_singleton.mp letter
  · rw [foreignChars_of_closed isOpen, trimChars_map isBlank_toLower]
    intro same
    obtain ⟨c, spelled, colon⟩ := List.map_eq_singleton_iff.mp same
    rw [toLower_eq_iff (by decide)] at colon
    exact isOpen (colon ▸ spelled)

/-- An entry of a foreign form is its own foreign form. -/
theorem foreignChars_foreignChars (index other : Nat) (part : List Char) :
    foreignChars index (foreignChars other part) = foreignChars other part := by
  rw [foreignChars_of_closed (trimChars_foreignChars other part)]
  exact map_toLower_map_toLower _

/-- The entries of a foreign form. -/
def foreignEntries (shape : List Char) : List (List Char) :=
  (splitOutside 0 (stripParentheses (trimChars shape))).mapIdx foreignChars

/-- **The foreign form of a shape**, entry by entry. -/
theorem toList_foreignForm (shape : String) : (foreignForm shape).toList =
    '(' :: ([','].intercalate (foreignEntries shape.toList) ++ [')']) := by
  have entries : ((splitOutside 0 (stripParentheses (trimChars shape.toList))).mapIdx
      fun index part => foreignPart part (index + 1)).map (List.map Char.toLower ∘ String.toList) =
      foreignEntries shape.toList :=
    List.ext_getElem (by simp [foreignEntries]) fun index _ _ => by simp [foreignEntries, foreignChars]
  have opening : "(".toList.map Char.toLower = ['('] := by decide
  have comma : ",".toList.map Char.toLower = [','] := by decide
  have closing : ")".toList.map Char.toLower = [')'] := by decide
  rw [foreignForm, toList_lower, String.toList_append, String.toList_append, join,
    String.toList_intercalate, List.map_append, List.map_append, map_intercalate, List.map_map,
    entries, opening, comma, closing, List.append_assoc, List.singleton_append]

theorem stripParentheses_enclosed (cs : List Char) :
    stripParentheses (trimChars ('(' :: (cs ++ [')']))) = cs := by
  rw [trimChars_enclosed (by decide) (by decide), stripParentheses, List.getLast?_concat,
    if_pos (by decide), List.dropLast_concat]

/-- The entries of a text in parentheses are those of its parts. -/
theorem foreignEntries_enclosed {parts : List (List Char)} (parted : Parted 0 parts) :
    foreignEntries ('(' :: ([','].intercalate parts ++ [')'])) = parts.mapIdx foreignChars := by
  rw [foreignEntries, stripParentheses_enclosed, splitOutside_intercalate parted]

/-- The entries of the foreign form are again parts of a shape. -/
theorem parted_foreignEntries (shape : List Char) : Parted 0 (foreignEntries shape) := by
  refine (parted_splitOutside 0 _).mapIdx (fun index part uncut => ?_) fun index part ends => ?_
  · by_cases isOpen : trimChars part = [':']
    · rw [foreignChars_of_open isOpen]
      exact (isEntry_extentReference _).count.2
    · rw [foreignChars_of_closed isOpen, uncut_map_toLower]
      exact uncut
  · by_cases isOpen : trimChars part = [':']
    · rw [foreignChars_of_open isOpen]
      exact (isEntry_extentReference _).count.1
    · rw [foreignChars_of_closed isOpen, depthAfter_map_toLower]
      exact ends

/-- **A foreign form is its own foreign form.** -/
theorem foreignForm_foreignForm (shape : String) :
    foreignForm (foreignForm shape) = foreignForm shape := by
  refine String.toList_inj.mp ?_
  rw [toList_foreignForm, toList_foreignForm, foreignEntries_enclosed (parted_foreignEntries _),
    foreignEntries, List.mapIdx_mapIdx]
  simp only [Function.comp_def, foreignChars_foreignChars]

/-! ### The foreign form of a shape -/

namespace Bound

/-- How a dimension is written on the foreign side: an open extent is taken from the vector of extents,
and a lower bound of one is left out. -/
def foreignEntry (bound : Bound) (position : Nat) : String :=
  if bound.isAssumed then s!"dims__({position})"
  else if trim bound.low == "1" then lower bound.high
  else lower bound.low ++ ":" ++ lower bound.high

variable {bound : Bound}

/-- A bound that is written is no open extent. -/
theorem trimChars_text (declared : bound.isAssumed = false) (noColon : ':' ∉ bound.high.toList) :
    trimChars bound.text.toList ≠ [':'] := by
  obtain ⟨c, member, filled⟩ : ∃ c ∈ bound.high.toList, isBlank c = false := by
    simpa [isAssumed, isBlankText] using declared
  have inText : c ∈ bound.text.toList := by
    rw [text, if_neg (by simp [declared])]
    split
    · exact member
    · rw [String.toList_append]
      exact List.mem_append_right _ member
  intro same
  have trimmed := mem_trimChars filled inText
  rw [same] at trimmed
  exact noColon (List.mem_singleton.mp trimmed ▸ member)

/-- The text of a bound, as an entry of the foreign form. -/
theorem foreignChars_text (noColon : ':' ∉ bound.high.toList) (index : Nat) :
    foreignChars index bound.text.toList = (bound.foreignEntry (index + 1)).toList := by
  cases assumed : bound.isAssumed with
  | true =>
      have colon : bound.text = ":" := by rw [text, if_pos assumed]
      rw [colon, foreignChars_of_open rfl, foreignEntry, if_pos assumed]
      rfl
  | false =>
      have entry : bound.foreignEntry (index + 1) = lower bound.text := by
        simp only [foreignEntry, text, assumed, Bool.false_eq_true, if_false]
        split
        · rfl
        · exact String.toList_inj.mp (by simp)
      rw [foreignChars_of_closed (trimChars_text assumed noColon), entry, toList_lower]

theorem isEntry_text (low : IsEntry bound.low.toList) (high : IsEntry bound.high.toList) :
    IsEntry bound.text.toList := by
  have colon : IsEntry [':'] := .plain (by decide) (by decide) (by decide) .nil
  rw [text]
  split
  · exact colon
  · split
    · exact high
    · rw [String.toList_append, String.toList_append]
      exact (low.append colon).append high

theorem isEntry_foreignEntry (low : IsEntry bound.low.toList) (high : IsEntry bound.high.toList)
    (position : Nat) : IsEntry (bound.foreignEntry position).toList := by
  have colon : IsEntry [':'] := .plain (by decide) (by decide) (by decide) .nil
  rw [foreignEntry]
  split
  · exact isEntry_extentReference position
  · split
    · rw [toList_lower]
      exact high.map_toLower
    · rw [String.toList_append, String.toList_append, toList_lower, toList_lower]
      exact (low.map_toLower.append colon).append high.map_toLower

end Bound

/-- The text of a shape that has dimensions. -/
theorem toList_shapeText {bounds : List Bound} (filled : bounds ≠ []) : (shapeText bounds).toList =
    '(' :: ([','].intercalate (bounds.map fun bound => bound.text.toList) ++ [')']) := by
  rw [shapeText, if_neg (by simpa using filled), String.toList_append, String.toList_append, join,
    String.toList_intercalate, List.map_map]
  rfl

/-- The foreign form of a shape has one entry for each bound. -/
theorem foreignEntries_shapeText {bounds : List Bound} (filled : bounds ≠ [])
    (each : ∀ bound ∈ bounds, IsEntry bound.low.toList ∧ IsEntry bound.high.toList ∧
      ':' ∉ bound.high.toList) :
    foreignEntries (shapeText bounds).toList =
      (bounds.mapIdx fun index bound => bound.foreignEntry (index + 1)).map String.toList := by
  have parted : Parted 0 (bounds.map fun bound => bound.text.toList) := by
    refine .of_isEntry (by simpa using filled) fun entry member => ?_
    obtain ⟨bound, listed, rfl⟩ := List.mem_map.mp member
    obtain ⟨low, high, -⟩ := each bound listed
    exact Bound.isEntry_text low high
  rw [toList_shapeText filled, foreignEntries_enclosed parted]
  refine List.ext_getElem (by simp) fun index _ inside => ?_
  have listed : index < bounds.length := by simpa using inside
  have noColon := (each bounds[index] (List.getElem_mem listed)).2.2
  simpa using Bound.foreignChars_text noColon index

/-- **The foreign form of a shape.** If the bounds of a shape are texts in which parentheses pair up and
no comma stands outside of them, and no upper bound has a colon, then its foreign form is in
parentheses and has exactly one entry for each dimension, with commas between them: a reference to the
vector of extents for an open one, and the bounds in lower case for any other. No entry has a comma
outside parentheses. And the foreign form of any text at all is its own foreign form. -/
theorem foreignForm_shapeText :
    (∀ bounds : List Bound, bounds ≠ [] →
      (∀ bound ∈ bounds, IsEntry bound.low.toList ∧ IsEntry bound.high.toList ∧
        ':' ∉ bound.high.toList) →
      ∃ entries : List String, entries.length = bounds.length ∧
        (∀ (index : Nat) (bound : Bound), bounds[index]? = some bound →
          entries[index]? = some (bound.foreignEntry (index + 1))) ∧
        (∀ entry ∈ entries, IsEntry entry.toList) ∧
        foreignForm (shapeText bounds) = "(" ++ ",".intercalate entries ++ ")") ∧
    ∀ shape, foreignForm (foreignForm shape) = foreignForm shape := by
  refine ⟨fun bounds filled each => ?_, foreignForm_foreignForm⟩
  refine ⟨bounds.mapIdx fun index bound => bound.foreignEntry (index + 1), List.length_mapIdx, ?_, ?_,
    ?_⟩
  · intro index bound listed
    rw [List.getElem?_mapIdx, listed]
    rfl
  · intro entry member
    obtain ⟨index, inside, rfl⟩ := List.mem_mapIdx.mp member
    obtain ⟨low, high, -⟩ := each _ (List.getElem_mem inside)
    exact Bound.isEntry_foreignEntry low high _
  · refine String.toList_inj.mp ?_
    rw [toList_foreignForm, foreignEntries_shapeText filled each, String.toList_append,
      String.toList_append, String.toList_intercalate]
    rfl

/-- A shape with commas inside parentheses, an open extent and letters in both cases. -/
def nestedBounds : List Bound :=
  [⟨" 1 ", "Max(n,M)"⟩, ⟨"1", " "⟩, ⟨"-K", "f((a),b)"⟩]

/-- Three dimensions, and so three entries. -/
theorem foreignForm_shapeText_nested :
    ∃ entries : List String, entries.length = 3 ∧ entries[0]? = some "max(n,m)" ∧
      entries[1]? = some "dims__(2)" ∧ entries[2]? = some "-k:f((a),b)" ∧
      foreignForm (shapeText nestedBounds) = "(" ++ ",".intercalate entries ++ ")" := by
  have plain {text : String} (checked : (text.toList.all fun c =>
      decide (c ≠ '(' ∧ c ≠ ')' ∧ c ≠ ',')) = true) : IsEntry text.toList :=
    .of_plain (forall_mem_of_all checked)
  have first : IsEntry "Max(n,M)".toList := by
    have inside : IsBalanced ['n', ',', 'M'] :=
      .plain (by decide) (by decide) (.plain (by decide) (by decide)
        (.plain (by decide) (by decide) .nil))
    have head : IsEntry "Max".toList := plain (by decide)
    exact head.append (.enclosed inside)
  have third : IsEntry "f((a),b)".toList := by
    have inside : IsBalanced ('(' :: (['a'] ++ ')' :: [',', 'b'])) :=
      .nested (.plain (by decide) (by decide) .nil)
        (.plain (by decide) (by decide) (.plain (by decide) (by decide) .nil))
    have head : IsEntry "f".toList := plain (by decide)
    exact head.append (.enclosed inside)
  have each : ∀ bound ∈ nestedBounds, IsEntry bound.low.toList ∧ IsEntry bound.high.toList ∧
      ':' ∉ bound.high.toList := by
    refine List.forall_mem_cons.mpr ⟨⟨plain (by decide), first, by decide⟩, ?_⟩
    refine List.forall_mem_cons.mpr ⟨⟨plain (by decide), plain (by decide), by decide⟩, ?_⟩
    exact List.forall_mem_singleton.mpr ⟨plain (by decide), third, by decide⟩
  obtain ⟨entries, count, listed, -, written⟩ :=
    foreignForm_shapeText.1 nestedBounds (List.cons_ne_nil _ _) each
  refine ⟨entries, count, ?_, ?_, ?_, written⟩
  · exact (listed 0 _ rfl).trans (congrArg some (by decide))
  · exact (listed 1 _ rfl).trans (congrArg some (by decide))
  · exact (listed 2 _ rfl).trans (congrArg some (by decide))

end ForeignGlue
