/-
**Accesses to slots in C source.**

C source gets at a slot of a scalar table through a cast, `*(long *)wxy_fscalars[0].data`. Such an
access stands in the text wherever these characters do, string literals left out.

* `Access.In`: the accesses that stand in a text;
* `Scans`: characters whose accesses are known whatever follows them, from one state of a reader to
  another. They are put together by `Scans.append`.
* `Quiet.fixed`: a text that is spelled out has no access if a reader gets through it that knows the
  characters an access starts with (`Reader.next?`).
-/

import ForeignGlue.Proofs.CSource.Layout

namespace ForeignGlue.CSource

open ForeignGlue.Source ForeignGlue.Text

/-! ### Accesses -/

/-- An access to a slot of a scalar table, through a pointer to a type. -/
structure Access where
  type : String
  table : String
  slot : Nat
  deriving DecidableEq, Repr

/-- The types through which slots are accessed. -/
def castTypes : List String :=
  ["long", "double"]

/-- Two words are the same if the texts they start are, and a character that is in no word follows
each of them. -/
theorem eq_of_append_cons {first second us vs : List Char} {c d : Char}
    (isWord : first.all isNameChar = true) (isWordToo : second.all isNameChar = true)
    (ends : isNameChar c = false) (endsToo : isNameChar d = false)
    (same : first ++ c :: us = second ++ d :: vs) : first = second ∧ c = d ∧ us = vs := by
  have words := congrArg (List.takeWhile isNameChar) same
  rw [List.takeWhile_append_of_pos (List.all_eq_true.mp isWord),
    List.takeWhile_append_of_pos (List.all_eq_true.mp isWordToo), List.takeWhile_cons_of_neg (by simp [ends]),
    List.takeWhile_cons_of_neg (by simp [endsToo]), List.append_nil, List.append_nil] at words
  subst words
  exact ⟨rfl, List.cons.inj (List.append_cancel_left same)⟩

theorem all_isNameChar_toDigits (value : Nat) :
    (Nat.toDigits 10 value).all isNameChar = true := by
  rw [List.all_eq_true]
  intro digit member
  exact isNameChar_of_isDigit (Nat.isDigit_of_mem_toDigits (by decide) (by decide) member)

theorem all_isNameChar_type {type : String} (cast : type ∈ castTypes) :
    type.toList.all isNameChar = true := by
  revert type
  unfold castTypes
  decide

namespace Access

/-- The characters of an access. -/
def chars (access : Access) : List Char :=
  ['*', '('] ++ access.type.toList ++ [' ', '*', ')'] ++ access.table.toList ++ ['['] ++
    Nat.toDigits 10 access.slot ++ [']', '.', 'd', 'a', 't', 'a']

/-- An access through one of the types stands at the start of a text. -/
def StartsAt (access : Access) (cs : List Char) : Prop :=
  access.type ∈ castTypes ∧ access.table.toList.all isNameChar = true ∧ access.chars <+: cs

instance (access : Access) (cs : List Char) : Decidable (access.StartsAt cs) :=
  inferInstanceAs (Decidable (_ ∧ _))

end Access

/-- Where in a source text a character stands. -/
inductive Place where
  | code
  /-- In a string literal. -/
  | literal
  /-- In a string literal, after a backslash. -/
  | escaped
  deriving DecidableEq, Repr

/-- Where the character after a given one stands. -/
def Place.next : Place → Char → Place
  | .code, c => if c = '"' then .literal else .code
  | .literal, c => if c = '\\' then .escaped else if c = '"' then .code else .literal
  | .escaped, _ => .literal

namespace Access

/-- **An access stands in a text**, at a place that is in no string literal. -/
def In (access : Access) : Place → List Char → Prop
  | _, [] => False
  | place, c :: cs => (place = .code ∧ access.StartsAt (c :: cs)) ∨ access.In (place.next c) cs

instance decidableIn (access : Access) (place : Place) (cs : List Char) :
    Decidable (access.In place cs) :=
  match cs with
  | [] => .isFalse id
  | c :: cs =>
    have := access.decidableIn (place.next c) cs
    inferInstanceAs (Decidable ((place = .code ∧ access.StartsAt (c :: cs)) ∨ _))

variable {access : Access} {c : Char} {cs : List Char}

/-- The first three characters of an access. -/
theorem StartsAt.exists_cons (starts : access.StartsAt cs) :
    ∃ c rest, (c = 'l' ∨ c = 'd') ∧ cs = '*' :: '(' :: c :: rest := by
  obtain ⟨cast, -, more, rfl⟩ := starts
  have known : ∀ type ∈ castTypes, ∃ c rest, (c = 'l' ∨ c = 'd') ∧ type.toList = c :: rest := by
    intro type member
    rcases List.mem_cons.mp member with rfl | member
    · exact ⟨'l', _, .inl rfl, rfl⟩
    · rw [List.mem_singleton.mp member]
      exact ⟨'d', _, .inr rfl, rfl⟩
  obtain ⟨c, rest, first, spelled⟩ := known _ cast
  exact ⟨c, access.chars.drop 3 ++ more, first, by simp [chars, spelled]⟩

theorem not_startsAt_of_ne_star (other : c ≠ '*') : ¬access.StartsAt (c :: cs) := by
  intro starts
  obtain ⟨_, _, -, same⟩ := starts.exists_cons
  exact other (List.cons.inj same).1

theorem not_startsAt_of_ne_opening (other : c ≠ '(') : ¬access.StartsAt ('*' :: c :: cs) := by
  intro starts
  obtain ⟨_, _, -, same⟩ := starts.exists_cons
  exact other (List.cons.inj (List.cons.inj same).2).1

theorem not_startsAt_of_ne_type (notLong : c ≠ 'l') (notDouble : c ≠ 'd') :
    ¬access.StartsAt ('*' :: '(' :: c :: cs) := by
  intro starts
  obtain ⟨_, _, first, same⟩ := starts.exists_cons
  obtain rfl := (List.cons.inj (List.cons.inj (List.cons.inj same).2).2).1
  rcases first with rfl | rfl
  · exact notLong rfl
  · exact notDouble rfl

/-- An access in front of other text, character by character. -/
theorem chars_append (access : Access) (rest : List Char) : access.chars ++ rest =
    '*' :: '(' :: (access.type.toList ++ ' ' :: '*' :: ')' :: (access.table.toList ++ '[' ::
      (Nat.toDigits 10 access.slot ++ ']' :: '.' :: 'd' :: 'a' :: 't' :: 'a' :: rest))) := by
  simp [chars]

/-- **The characters of an access tell which one it is**, whatever stands after them. -/
theorem eq_of_startsAt {other : Access} (cast : access.type ∈ castTypes)
    (named : access.table.toList.all isNameChar = true)
    (starts : other.StartsAt (access.chars ++ cs)) : other = access := by
  obtain ⟨castToo, namedToo, more, same⟩ := starts
  rw [chars_append, chars_append, List.cons_inj_right, List.cons_inj_right] at same
  obtain ⟨types, -, same⟩ := eq_of_append_cons (all_isNameChar_type castToo)
    (all_isNameChar_type cast) (by decide) (by decide) same
  rw [List.cons_inj_right, List.cons_inj_right] at same
  obtain ⟨tables, -, same⟩ := eq_of_append_cons namedToo named (by decide) (by decide) same
  obtain ⟨digits, -⟩ := eq_of_append_cons (all_isNameChar_toDigits _) (all_isNameChar_toDigits _)
    (by decide) (by decide) same
  have slots := congrArg (Nat.ofDigitChars 10 · 0) digits
  simp only [Nat.ofDigitChars_ten_toDigits] at slots
  cases access
  cases other
  rw [Access.mk.injEq]
  exact ⟨String.toList_injective types, String.toList_injective tables, slots⟩

/-- A cast of what stands in parentheses is no access to a table. -/
theorem not_startsAt_of_opening {type : String} (cast : type ∈ castTypes) :
    ¬access.StartsAt ('*' :: '(' :: (type.toList ++ ' ' :: '*' :: ')' :: '(' :: cs)) := by
  rintro ⟨castToo, named, more, same⟩
  rw [chars_append, List.cons_inj_right, List.cons_inj_right] at same
  obtain ⟨-, -, same⟩ := eq_of_append_cons (all_isNameChar_type castToo)
    (all_isNameChar_type cast) (by decide) (by decide) same
  rw [List.cons_inj_right, List.cons_inj_right, ← List.nil_append ('(' :: cs)] at same
  obtain ⟨-, bracket, -⟩ := eq_of_append_cons named List.all_nil (by decide) (by decide) same
  exact absurd bracket (by decide)

/-- A word with an underscore is no type. A blank follows the type of an access, and a word has none. -/
theorem not_startsAt_of_word {word : List Char} (isWord : word.all isNameChar = true)
    (underscored : '_' ∈ word) : ¬access.StartsAt ('*' :: '(' :: (word ++ cs)) := by
  rintro ⟨cast, -, more, same⟩
  have notInType : '_' ∉ access.type.toList := by
    have known : ∀ type ∈ castTypes, '_' ∉ type.toList := by
      unfold castTypes
      decide
    exact known _ cast
  rw [chars_append, List.cons_inj_right, List.cons_inj_right] at same
  rcases List.append_eq_append_iff.mp same with ⟨between, rfl, later⟩ | ⟨between, spelled, -⟩
  · cases between with
    | nil => exact notInType (by simpa using underscored)
    | cons c between =>
        obtain ⟨rfl, -⟩ := List.cons.inj later
        exact absurd (List.all_eq_true.mp isWord ' ' (by simp)) (by decide)
  · rw [spelled] at notInType
    exact notInType (List.mem_append_left _ underscored)

end Access

/-! ### A reader that looks for accesses -/

/-- What a reader knows of the characters before the next one. -/
inductive Reader where
  | code
  /-- After a star. -/
  | star
  /-- After a star and a parenthesis. -/
  | opening
  | literal
  | escaped
  deriving DecidableEq, Repr

namespace Reader

/-- Where the next character stands. -/
def place : Reader → Place
  | .code | .star | .opening => .code
  | .literal => .literal
  | .escaped => .escaped

/-- The characters that an access may have started with. -/
def pending : Reader → List Char
  | .star => ['*']
  | .opening => ['*', '(']
  | _ => []

/-- The reader in code, after a character that starts no access with those before it. -/
def restart (c : Char) : Reader :=
  if c = '"' then .literal else if c = '*' then .star else .code

/-- What is known after one more character, unless an access may stand there. -/
def next? (reader : Reader) (c : Char) : Option Reader :=
  match reader with
  | .code => some (restart c)
  | .star => some (if c = '(' then .opening else restart c)
  | .opening => if c = 'l' ∨ c = 'd' then none else some (restart c)
  | .literal => some (if c = '\\' then .escaped else if c = '"' then .code else .literal)
  | .escaped => some .literal

/-- What is known after a text in which there is no access. -/
def run? (reader : Reader) : List Char → Option Reader
  | [] => some reader
  | c :: cs => (reader.next? c).bind fun after => after.run? cs

/-- A reader that no character moves. -/
theorem run?_steady {reader : Reader} {cs : List Char}
    (same : ∀ c ∈ cs, reader.next? c = some reader) : reader.run? cs = some reader := by
  induction cs with
  | nil => rfl
  | cons c cs ih =>
      rw [run?, same c List.mem_cons_self]
      exact ih fun other member => same other (List.mem_cons_of_mem _ member)

end Reader

/-- An access that stands in the characters still to be read, or that started before them. -/
def Access.After (access : Access) (reader : Reader) (cs : List Char) : Prop :=
  (reader.pending ≠ [] ∧ access.StartsAt (reader.pending ++ cs)) ∨ access.In reader.place cs

namespace Access

variable {access : Access} {c : Char} {cs : List Char}

theorem after_code : access.After .code cs ↔ access.In .code cs :=
  or_iff_right fun started => started.1 rfl

theorem after_literal : access.After .literal cs ↔ access.In .literal cs :=
  or_iff_right fun started => started.1 rfl

theorem after_escaped : access.After .escaped cs ↔ access.In .escaped cs :=
  or_iff_right fun started => started.1 rfl

/-- Inside a literal no access starts. -/
theorem in_cons_of_ne_code {place : Place} (inside : place ≠ .code) :
    access.In place (c :: cs) ↔ access.In (place.next c) cs :=
  or_iff_right fun started => inside started.1

/-- In code an access starts here or later, according to what the reader keeps of the character. -/
theorem in_code_cons : access.In .code (c :: cs) ↔ access.After (.restart c) cs := by
  show (_ ∧ access.StartsAt (c :: cs)) ∨ access.In (if c = '"' then _ else _) cs ↔ _
  unfold Reader.restart
  by_cases quote : c = '"'
  · subst quote
    rw [if_pos rfl, if_pos rfl, or_iff_right fun started =>
      not_startsAt_of_ne_star (by decide) started.2]
    exact (or_iff_right fun started => started.1 rfl).symm
  · rw [if_neg quote, if_neg quote]
    by_cases star : c = '*'
    · subst star
      rw [if_pos rfl]
      exact or_congr_left ⟨fun started => ⟨List.cons_ne_nil _ _, started.2⟩, fun started =>
        ⟨rfl, started.2⟩⟩
    · rw [if_neg star, or_iff_right fun started => not_startsAt_of_ne_star star started.2]
      exact after_code.symm

/-- **One character.** -/
theorem after_cons {reader after : Reader} (step : reader.next? c = some after) :
    access.After reader (c :: cs) ↔ access.After after cs := by
  unfold Reader.next? at step
  cases reader with
  | code =>
      cases step
      rw [after_code]
      exact in_code_cons
  | star =>
      cases step
      by_cases opening : c = '('
      · subst opening
        have later : access.In .code ('(' :: cs) ↔ access.In .code cs := in_code_cons.trans after_code
        exact or_congr ⟨fun started => ⟨List.cons_ne_nil _ _, started.2⟩, fun started =>
          ⟨List.cons_ne_nil _ _, started.2⟩⟩ later
      · rw [if_neg opening, ← in_code_cons]
        exact or_iff_right fun started => not_startsAt_of_ne_opening opening started.2
  | opening =>
      by_cases starts : c = 'l' ∨ c = 'd'
      · rw [if_pos starts] at step
        cases step
      · rw [if_neg starts] at step
        cases step
        rw [← in_code_cons]
        exact or_iff_right fun started =>
          not_startsAt_of_ne_type (fun l => starts (.inl l)) (fun d => starts (.inr d)) started.2
  | literal =>
      cases step
      rw [after_literal, in_cons_of_ne_code (show Place.literal ≠ .code from nofun)]
      show access.In (if c = '\\' then .escaped else if c = '"' then .code else .literal) cs ↔ _
      by_cases backslash : c = '\\'
      · rw [if_pos backslash, if_pos backslash, after_escaped]
      · rw [if_neg backslash, if_neg backslash]
        by_cases quote : c = '"'
        · rw [if_pos quote, if_pos quote, after_code]
        · rw [if_neg quote, if_neg quote, after_literal]
  | escaped =>
      cases step
      rw [after_escaped, after_literal, in_cons_of_ne_code (show Place.escaped ≠ .code from nofun)]
      rfl

/-- **A text without an access**, to which it makes no difference what follows. -/
theorem after_append {reader after : Reader} {text : List Char} (run : reader.run? text = some after) :
    access.After reader (text ++ cs) ↔ access.After after cs := by
  induction text generalizing reader with
  | nil =>
      cases run
      rfl
  | cons c text ih =>
      obtain ⟨between, step, later⟩ := Option.bind_eq_some_iff.mp run
      rw [List.cons_append, after_cons step]
      exact ih later

end Access

/-! ### Chunks of source -/

/-- **A chunk of source with its accesses**, whatever follows it, between two states of a reader. -/
def Scans (before : Reader) (text : String) (accesses : Access → Prop) (after : Reader) : Prop :=
  ∀ rest access, access.After before (text.toList ++ rest) ↔
    accesses access ∨ access.After after rest

/-- A chunk of source without an access. -/
def Quiet (before : Reader) (text : String) (after : Reader) : Prop :=
  ∀ rest access, Access.After access before (text.toList ++ rest) ↔ access.After after rest

namespace Quiet

variable {before between after : Reader} {first second text : String}

/-- Quiet chunks, one after the other. -/
theorem append (quiet : Quiet before first between) (quietToo : Quiet between second after) :
    Quiet before (first ++ second) after := by
  intro rest access
  rw [String.toList_append, List.append_assoc, quiet, quietToo]

/-- The reader meets no access if it gets through by single characters. -/
theorem ofRun (run : before.run? text.toList = some after) : Quiet before text after :=
  fun _ _ => Access.after_append run

/-- A text that is spelled out. -/
theorem fixed {cs : List Char} (run : before.run? cs = some after) :
    Quiet before (String.ofList cs) after :=
  ofRun (by rwa [String.toList_ofList])

/-- Characters that change nothing. -/
theorem steady (same : ∀ c ∈ text.toList, before.next? c = some before) :
    Quiet before text before :=
  ofRun (Reader.run?_steady same)

theorem empty (reader : Reader) : Quiet reader "" reader :=
  fixed rfl

/-- A chunk without an access, seen as one with accesses that there are none of. -/
theorem scans {accesses : Access → Prop} (quiet : Quiet before text after)
    (none : ∀ access, ¬accesses access) : Scans before text accesses after := by
  intro rest access
  rw [quiet rest access, or_iff_right (none access)]

end Quiet

namespace Scans

variable {before between after : Reader} {first second text : String}
  {accesses others : Access → Prop}

/-- The accesses of two chunks are those of either. -/
theorem append (scans : Scans before first accesses between)
    (scansToo : Scans between second others after) :
    Scans before (first ++ second) (fun access => accesses access ∨ others access) after := by
  intro rest access
  rw [String.toList_append, List.append_assoc, scans, scansToo, or_assoc]

theorem quietly (quiet : Quiet before first between) (scans : Scans between second accesses after) :
    Scans before (first ++ second) accesses after := by
  intro rest access
  rw [String.toList_append, List.append_assoc, quiet, scans]

theorem thenQuiet (scans : Scans before first accesses between) (quiet : Quiet between second after) :
    Scans before (first ++ second) accesses after := by
  intro rest access
  rw [String.toList_append, List.append_assoc, scans, quiet]

/-- A chunk without accesses is quiet. -/
theorem isQuiet (scans : Scans before text accesses after) (none : ∀ access, ¬accesses access) :
    Quiet before text after := by
  intro rest access
  rw [scans, or_iff_right (none access)]

theorem congr (scans : Scans before text accesses after)
    (same : ∀ access, others access ↔ accesses access) : Scans before text others after := by
  intro rest access
  rw [scans, same]

/-- Chunks for the items of a list, each from the same place on. -/
theorem join {α : Type} {items : List α} {text : α → String} {accessesAt : α → Access → Prop}
    (each : ∀ item ∈ items, Scans before (text item) (accessesAt item) before) :
    Scans before (String.join (items.map text))
      (fun access => ∃ item ∈ items, accessesAt item access) before := by
  induction items with
  | nil => exact (Quiet.empty before).scans fun access => by simp
  | cons item items ih =>
      have rest := ih fun other member => each other (List.mem_cons_of_mem _ member)
      rw [List.map_cons, String.join_cons]
      exact ((each item List.mem_cons_self).append rest).congr fun access => by simp

end Scans

/-! ### Names, numbers and literals -/

/-- A text that can stand in code and in literals: it has no quote, backslash, star or opening
parenthesis. -/
def IsPlain (text : String) : Prop :=
  ∀ c ∈ text.toList, c ≠ '"' ∧ c ≠ '\\' ∧ c ≠ '*' ∧ c ≠ '('

instance (text : String) : Decidable (IsPlain text) :=
  List.decidableBAll _ text.toList

/-- A text that can stand in code: it has no quote and no star. -/
def IsCode (text : String) : Prop :=
  ∀ c ∈ text.toList, c ≠ '"' ∧ c ≠ '*'

instance (text : String) : Decidable (IsCode text) :=
  List.decidableBAll _ text.toList

/-- No character of a name is a quote, a backslash, a star or a parenthesis. -/
theorem ne_of_isNameChar {c : Char} (inside : isNameChar c = true) :
    c ≠ '"' ∧ c ≠ '\\' ∧ c ≠ '*' ∧ c ≠ '(' := by
  refine ⟨?_, ?_, ?_, ?_⟩ <;>
  · rintro rfl
    exact absurd inside (by decide)

namespace IsPlain

variable {text other : String}

theorem word (isWord : text.toList.all isNameChar = true) : IsPlain text :=
  fun c member => ne_of_isNameChar (List.all_eq_true.mp isWord c member)

theorem number (value : Nat) : IsPlain (toString value) :=
  word (by simpa using all_isNameChar_toDigits value)

theorem append (plain : IsPlain text) (plainToo : IsPlain other) : IsPlain (text ++ other) := by
  intro c member
  rw [String.toList_append, List.mem_append] at member
  exact member.elim (plain c) (plainToo c)

theorem lower (plain : IsPlain text) : IsPlain (lower text) := by
  intro c member
  rw [toList_lower, List.mem_map] at member
  obtain ⟨c, member, rfl⟩ := member
  by_cases letter : isNameStart c = true
  · exact ne_of_isNameChar (isNameChar_of_isNameStart (isNameStart_toLower letter))
  · rw [toLower_of_not_isNameStart (Bool.not_eq_true _ ▸ letter)]
    exact plain c member

end IsPlain

namespace Quiet

variable {after : Reader} {text : String}

theorem code (each : IsCode text) : Quiet .code text .code := by
  refine steady fun c member => ?_
  show some (Reader.restart c) = some .code
  unfold Reader.restart
  rw [if_neg (each c member).1, if_neg (each c member).2]

theorem name (plain : IsPlain text) : Quiet .code text .code :=
  code fun c member => ⟨(plain c member).1, (plain c member).2.2.1⟩

theorem number (value : Nat) : Quiet .code (toString value) .code :=
  name (.number value)

/-- A name inside a literal. -/
theorem nameInLiteral (plain : IsPlain text) : Quiet .literal text .literal := by
  refine steady fun c member => ?_
  show some (if c = '\\' then Reader.escaped else if c = '"' then .code else .literal) = _
  rw [if_neg (plain c member).2.1, if_neg (plain c member).1]

/-- A name between texts that are spelled out. -/
theorem around {before : Reader} {cs ds : List Char} (run : before.run? cs = some .code)
    (plain : IsPlain text) (runToo : Reader.run? .code ds = some after) :
    Quiet before (String.ofList cs ++ text ++ String.ofList ds) after :=
  ((fixed run).append (name plain)).append (fixed runToo)

/-- A name in a literal, between texts that are spelled out. -/
theorem aroundInLiteral {before : Reader} {cs ds : List Char} (run : before.run? cs = some .literal)
    (plain : IsPlain text) (runToo : Reader.run? .literal ds = some after) :
    Quiet before (String.ofList cs ++ text ++ String.ofList ds) after :=
  ((fixed run).append (nameInLiteral plain)).append (fixed runToo)

/-- The body of a literal does not end it. -/
theorem run?_of_isLiteralBody {cs : List Char} (inside : isLiteralBody cs = true) :
    Reader.run? .literal cs = some .literal := by
  refine isLiteralBody_induction rfl (fun c cs _ ih => ih)
    (fun c cs notQuote _ notBackslash ih => ?_) inside
  show Reader.run? (if c = '\\' then .escaped else if c = '"' then .code else .literal) cs = _
  rw [if_neg notBackslash, if_neg notQuote]
  exact ih

/-- A text that is escaped may say anything. -/
theorem escaped (text : String) : Quiet .literal (escape text) .literal :=
  ofRun (run?_of_isLiteralBody (isLiteralBody_escape text))

/-- A quoted text is quiet, whatever it is: the quotes in it are escaped. -/
theorem quoted (text : String) : Quiet .code (Source.quoted text) .code :=
  ((fixed rfl).append (escaped text)).append (fixed rfl)

end Quiet

/-- What holds of texts that are joined, if it goes on to hold across a separator. -/
theorem join_of_append {holds : String → Prop} {separator : String} {pieces : List String}
    (empty : holds "") (each : ∀ piece ∈ pieces, holds piece)
    (step : ∀ first rest, holds first → holds rest → holds (first ++ separator ++ rest)) :
    holds (Text.join separator pieces) := by
  unfold Text.join
  induction pieces with
  | nil => exact empty
  | cons piece pieces ih =>
      have first := each piece List.mem_cons_self
      have rest := ih fun other member => each other (List.mem_cons_of_mem _ member)
      cases pieces with
      | nil =>
          rw [String.intercalate_singleton]
          exact first
      | cons next pieces =>
          rw [String.intercalate_cons_cons]
          exact step _ _ first rest

/-- Quiet pieces with a quiet separator. -/
theorem Quiet.join {cs : List Char} {pieces : List String}
    (each : ∀ piece ∈ pieces, Quiet .code piece .code) (run : Reader.run? .code cs = some .code) :
    Quiet .code (Text.join (String.ofList cs) pieces) .code :=
  join_of_append (.empty .code) each fun _ _ quiet quietToo =>
    (quiet.append (.fixed run)).append quietToo

/-! ### Texts that may end in a star -/

/-- A text that leaves the reader in code, or after a star that nothing has followed. -/
def Settles (text : String) : Prop :=
  Quiet .code text .code ∨ Quiet .code text .star

namespace Settles

variable {after : Reader} {text : String} {cs : List Char}

/-- What follows a star decides whether an access starts there. -/
theorem followed (settles : Settles text) (code : Reader.run? .code cs = some after)
    (star : Reader.run? .star cs = some after) : Quiet .code (text ++ String.ofList cs) after := by
  rcases settles with quiet | quiet
  · exact quiet.append (.fixed code)
  · exact quiet.append (.fixed star)

/-- A name after a star, which may be empty. -/
theorem pointer {lead : String} (leads : Quiet .code lead .star) (plain : IsPlain text) :
    Settles (lead ++ text) := by
  cases spelled : text.toList with
  | nil =>
      refine .inr (leads.append (.ofRun ?_))
      rw [spelled]
      rfl
  | cons c cs =>
      have each : ∀ d ∈ c :: cs, Reader.restart d = .code ∧ d ≠ '(' := by
        intro d member
        obtain ⟨notQuote, -, notStar, notOpening⟩ := plain d (spelled ▸ member)
        unfold Reader.restart
        rw [if_neg notQuote, if_neg notStar]
        exact ⟨rfl, notOpening⟩
      refine .inl (leads.append (.ofRun ?_))
      rw [spelled]
      show Reader.run? (if c = '(' then .opening else .restart c) cs = _
      rw [if_neg (each c List.mem_cons_self).2, (each c List.mem_cons_self).1]
      exact Reader.run?_steady fun d member =>
        congrArg some (each d (List.mem_cons_of_mem _ member)).1

theorem join {pieces : List String} (each : ∀ piece ∈ pieces, Settles piece)
    (code : Reader.run? .code cs = some .code) (star : Reader.run? .star cs = some .code) :
    Settles (Text.join (String.ofList cs) pieces) := by
  refine join_of_append (.inl (.empty .code)) each fun first rest settles settlesToo => ?_
  have before := settles.followed code star
  exact settlesToo.imp before.append before.append

end Settles

/-! ### Casts -/

/-- Code that completes no access which started before it. -/
theorem Quiet.of_not_startsAt {before after : Reader} {text : String} (inCode : before.place = .code)
    (never : ∀ rest access, ¬Access.StartsAt access (before.pending ++ (text.toList ++ rest)))
    (quiet : Quiet .code text after) : Quiet before text after := by
  intro rest access
  show (_ ∧ _) ∨ access.In before.place _ ↔ _
  rw [or_iff_right fun started => never rest access started.2, inCode, ← Access.after_code]
  exact quiet rest access

/-- A word with an underscore. It completes no access, since it is no type. -/
theorem Quiet.word {before : Reader} {text : String} (inCode : before.place = .code)
    (isWord : text.toList.all isNameChar = true) (underscored : '_' ∈ text.toList) :
    Quiet before text .code := by
  have quiet : Quiet .code text .code := .name (.word isWord)
  cases before with
  | code => exact quiet
  | star =>
      obtain ⟨c, cs, spelled⟩ := List.exists_cons_of_ne_nil (List.ne_nil_of_mem underscored)
      refine .of_not_startsAt rfl (fun rest access => ?_) quiet
      have notOpening := (IsPlain.word isWord c (by simp [spelled])).2.2.2
      rw [spelled]
      exact Access.not_startsAt_of_ne_opening notOpening
  | opening =>
      refine .of_not_startsAt rfl (fun rest access => ?_) quiet
      show ¬access.StartsAt ('*' :: '(' :: (text.toList ++ rest))
      exact Access.not_startsAt_of_word isWord underscored
  | literal => cases inCode
  | escaped => cases inCode

/-- A cast of what stands in parentheses. -/
theorem Quiet.cast {type : String} {cs : List Char} {after : Reader} (cast : type ∈ castTypes)
    (run : Reader.run? .code cs = some after) :
    Quiet .opening (type ++ String.ofList (' ' :: '*' :: ')' :: '(' :: cs)) after := by
  have word : Quiet .code type .code := .name (.word (all_isNameChar_type cast))
  have closes : Quiet .code (String.ofList (' ' :: '*' :: ')' :: '(' :: cs)) after := .fixed run
  refine .of_not_startsAt rfl (fun rest access => ?_) (word.append closes)
  have never : ¬access.StartsAt ('*' :: '(' :: (type.toList ++ ' ' :: '*' :: ')' :: '(' ::
      (cs ++ rest))) := Access.not_startsAt_of_opening cast
  show ¬access.StartsAt ('*' :: '(' :: ((type ++ String.ofList _).toList ++ rest))
  simpa using never

/-- **An access**, in code. -/
theorem Scans.access {before : Reader} {access : Access} {text : String}
    (inCode : before.place = .code) (cast : access.type ∈ castTypes)
    (named : access.table.toList.all isNameChar = true) (spelled : text.toList = access.chars) :
    Scans before text (· = access) .code := by
  intro rest other
  have step : before.next? '*' = some .star := by
    cases before <;> first | rfl | cases inCode
  have quiet : Quiet .code ("(" ++ (access.type ++ (" *)" ++ (access.table ++ ("[" ++
      (toString access.slot ++ "].data")))))) .code :=
    .append (.fixed rfl) (.append (.name (.word (all_isNameChar_type cast))) (.append (.fixed rfl)
      (.append (.name (.word named)) (.append (.fixed rfl) (.append (.number _) (.fixed rfl))))))
  have split : access.chars = '*' :: ("(" ++ (access.type ++ (" *)" ++ (access.table ++ ("[" ++
      (toString access.slot ++ "].data")))))).toList := by
    simp [Access.chars]
  have itself : other.StartsAt (access.chars ++ rest) ↔ other = access := by
    refine ⟨Access.eq_of_startsAt cast named, ?_⟩
    rintro rfl
    exact ⟨cast, named, List.prefix_append _ _⟩
  rw [split] at itself
  rw [spelled, split, List.cons_append, Access.after_cons step]
  show (_ ∧ _) ∨ other.In .code _ ↔ _
  rw [← Access.after_code, quiet]
  refine or_congr_left ⟨fun started => itself.mp started.2, fun same => ?_⟩
  exact ⟨List.cons_ne_nil _ _, itself.mpr same⟩

/-! ### Lines -/

/-- **The accesses in the lines of a draft**, whatever lines follow, if none of them failed. -/
def Tells (draft : Draft String) (accesses : Access → Prop) : Prop :=
  ∀ lines, draft = .ofList lines → ∀ rest access,
    Access.In access .code (lineChars lines ++ rest) ↔ accesses access ∨ access.In .code rest

namespace Tells

variable {first second : Draft String} {accesses others : Access → Prop}

theorem congr (tells : Tells first accesses) (same : ∀ access, others access ↔ accesses access) :
    Tells first others := by
  intro lines spelled rest access
  rw [tells lines spelled, same]

theorem append (tells : Tells first accesses) (tellsToo : Tells second others) :
    Tells (first ++ second) (fun access => accesses access ∨ others access) := by
  intro lines spelled rest access
  obtain ⟨before, after, rfl, rfl, rfl⟩ := List.append_eq_map_iff.mp spelled
  rw [lineChars_append, List.append_assoc, tells before rfl, tellsToo after rfl, or_assoc]

theorem line {text : String} (scans : Scans .code text accesses .code) :
    Tells [.ok text] accesses := by
  intro lines spelled rest access
  obtain rfl : [text] = lines := ofList_injective spelled
  have ended : lineChars [text] ++ rest = (text ++ "\n").toList ++ rest := by simp [lineChars]
  have newLine : Quiet .code "\n" .code := .fixed rfl
  rw [ended, ← Access.after_code, scans.thenQuiet newLine, Access.after_code]

theorem nothing : Tells [] fun _ => False := by
  intro lines spelled rest access
  cases lines with
  | nil => exact (or_iff_right id).symm
  | cons line lines => cases spelled

theorem failed {error : GenerationError} : Tells [.error error] accesses := by
  intro lines spelled
  cases lines <;> cases spelled

theorem flatMap {α : Type} {items : List α} {draft : α → Draft String}
    {accessesAt : α → Access → Prop} (each : ∀ item ∈ items, Tells (draft item) (accessesAt item)) :
    Tells (items.flatMap draft) fun access => ∃ item ∈ items, accessesAt item access := by
  induction items with
  | nil => exact nothing.congr fun access => by simp
  | cons item items ih =>
      have rest := ih fun other member => each other (List.mem_cons_of_mem _ member)
      rw [List.flatMap_cons]
      exact ((each item List.mem_cons_self).append rest).congr fun access => by simp

theorem lines {α : Type} {items : List α} {text : α → String} {accessesAt : α → Access → Prop}
    (each : ∀ item ∈ items, Scans .code (text item) (accessesAt item) .code) :
    Tells (.ofList (items.map text)) fun access => ∃ item ∈ items, accessesAt item access := by
  rw [Draft.ofList, List.map_map, List.map_eq_flatMap]
  exact flatMap fun item member => line (each item member)

/-- Lines without accesses. -/
theorem quiet (each : ∀ line, .ok line ∈ first → Quiet .code line .code) :
    Tells first fun _ => False := by
  induction first with
  | nil => exact nothing
  | cons piece pieces ih =>
      have rest := ih fun line member => each line (List.mem_cons_of_mem _ member)
      have here : Tells [piece] fun _ => False := by
        cases piece with
        | error error => exact failed
        | ok text =>
            exact line ((each text List.mem_cons_self).scans fun _ => id)
      exact (here.append rest).congr fun _ => (or_self_iff).symm

/-- Lines without accesses, and others after them. -/
theorem quietly (each : ∀ line, .ok line ∈ first → Quiet .code line .code)
    (tells : Tells second accesses) : Tells (first ++ second) accesses :=
  ((quiet each).append tells).congr fun _ => (or_iff_right id).symm

theorem thenQuiet (tells : Tells first accesses)
    (each : ∀ line, .ok line ∈ second → Quiet .code line .code) : Tells (first ++ second) accesses :=
  (tells.append (quiet each)).congr fun _ => (or_iff_left id).symm

end Tells

end ForeignGlue.CSource
