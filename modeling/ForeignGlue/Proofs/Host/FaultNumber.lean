/-
**The argument that a fault is attributed to.**

A wrapper counts in `argno` while it converts arguments, and sets it while it checks shapes. What is left
in it at the recovery point is the number that a fault inside the foreign routine is reported under. The
model of a call keeps that number as the state of a loop which passes over some arguments.

* `lineStep`: what a line means for `argno` and for the way through a wrapper;
* `Walk`: a way through lines, for given outcomes of their conditions;
* `Leads`: what every way through some lines does to the number, closed under appending;
* `Context.leads_untilRecovery`: all lines before the recovery point;
* `Routine.Blames`: the number, told by the declarations of the arguments;
* `Routine.Enters`, `Routine.invoke_of_check`: the model of a call and its body;
* `Context.faults_attributed`: wrapper and model side by side.
-/

import ForeignGlue.Proofs.Host.Messages

namespace ForeignGlue

open ForeignGlue.CExpression (all_isDigit_toDigits)
open ForeignGlue.CSource ForeignGlue.Source ForeignGlue.Text

/-! ### Lines -/

/-- What a line means for the number of the current argument. -/
inductive LineStep where
  /-- Declares the number, with its first value. -/
  | declare (value : Nat)
  /-- Goes to the next argument. -/
  | next
  /-- Goes to an argument. -/
  | set (value : Nat)
  /-- Leaves the wrapper, at the end of a block. -/
  | leave
  /-- Leaves the wrapper if a condition holds. -/
  | leaveIf
  /-- Opens a block, under a condition or not. -/
  | opens (conditional : Bool)
  /-- Closes a block. -/
  | closes
  /-- Goes on. -/
  | other
  deriving DecidableEq, Repr

/-- The number in a statement that is made up of some text, a number and a semicolon. -/
def constantAfter? (lead : String) (statement : List Char) : Option Nat :=
  let digits := statement.dropLast.drop lead.toList.length
  if lead.toList.isPrefixOf statement && !digits.isEmpty && digits.all Char.isDigit &&
      statement.getLast? == some ';' then
    some (Nat.ofDigitChars 10 digits 0)
  else none

/-- What a statement of one line means that opens or closes no block. -/
def plainStep (statement : List Char) : LineStep :=
  if "if (".toList.isPrefixOf statement && " return NULL;".toList.isSuffixOf statement then .leaveIf
  else if statement = "argno++;".toList then .next
  else
    match constantAfter? "argno = " statement with
    | some value => .set value
    | none =>
      match constantAfter? "int argno=" statement with
      | some value => .declare value
      | none => .other

/-- **What a line means.** Blocks are told by the braces at the ends of lines. -/
def lineStep (line : String) : LineStep :=
  let statement := line.toList.dropWhile (· == ' ')
  if statement.getLast? = some '\x7b' then .opens ("if (".toList.isPrefixOf statement)
  else if statement.getLast? = some '\x7d' then
    if statement = "goto err;\x7d".toList then .leave else .closes
  else plainStep statement

example : ["  int argno=0;", "  argno++;", "  argno = 12;", "    goto err;\x7d", "  if (x) \x7b", "  \x7d",
    "  int i;"].map lineStep =
    [.declare 0, .next, .set 12, .leave, .opens true, .closes, .other] := by
  decide

/-! ### Lines that go on -/

theorem suffix_append (start : String) {ending : String} {tail : List Char}
    (ends : tail <:+ ending.toList) : tail <:+ (start ++ ending).toList := by
  rw [String.toList_append]
  exact ends.trans (List.suffix_append _ _)

/-- The end of a line does not depend on how far it is indented. -/
theorem suffix_statement {line : String} {c d : Char} (written : c ≠ ' ')
    (ends : [c, d] <:+ line.toList) : [c, d] <:+ line.toList.dropWhile (· == ' ') := by
  obtain ⟨start, whole⟩ := ends
  rw [← whole, List.dropWhile_append]
  split
  · have kept : [c, d].dropWhile (· == ' ') = [c, d] :=
      List.dropWhile_cons_of_neg (by simpa using written)
    exact kept.symm ▸ List.suffix_refl _
  · exact List.suffix_append _ _

/-- A line that ends otherwise sets no number. -/
theorem constantAfter?_eq_none {lead : String} {statement : List Char} {c : Char}
    (noDigit : c.isDigit = false) (ends : [c, ';'] <:+ statement) :
    constantAfter? lead statement = none := by
  obtain ⟨start, rfl⟩ := ends
  have last : (start ++ [c, ';']).dropLast = start ++ [c] := by simp
  unfold constantAfter?
  dsimp only
  rw [last]
  refine if_neg fun numbered => ?_
  simp only [Bool.and_eq_true, Bool.not_eq_true', List.isEmpty_eq_false_iff] at numbered
  obtain ⟨⟨⟨-, written⟩, digits⟩, -⟩ := numbered
  have isLast : c ∈ (start ++ [c]).drop lead.toList.length := by
    refine List.mem_of_getLast? ?_
    rw [List.getLast?_drop, if_neg fun short => written (List.drop_of_length_le short)]
    simp
  rw [List.all_eq_true.mp digits c isLast] at noDigit
  cases noDigit

/-- A statement that ends in no way that matters. -/
theorem plainStep_of_suffix {statement : List Char} {c : Char} (noDigit : c.isDigit = false)
    (noCount : c ≠ '+') (noReturn : c ≠ 'L') (ends : [c, ';'] <:+ statement) :
    plainStep statement = .other := by
  have before {text : List Char} {d : Char} (ending : [d, ';'] <:+ text) (suffix : text <:+ statement) :
      c = d := by
    have same := List.suffix_of_suffix_length_le ends (ending.trans suffix) (Nat.le_refl _)
    exact (List.cons.inj (same.eq_of_length rfl)).1
  have stays : ("if (".toList.isPrefixOf statement && " return NULL;".toList.isSuffixOf statement) =
      false := by
    rw [Bool.and_eq_false_iff, ← Bool.not_eq_true, ← Bool.not_eq_true, List.isSuffixOf_iff_suffix]
    exact .inr fun returns => noReturn (before (by decide) returns)
  have uncounted : statement ≠ "argno++;".toList := by
    rintro rfl
    exact noCount (before (by decide) (List.suffix_refl _))
  rw [plainStep, stays, if_neg Bool.false_ne_true, if_neg uncounted,
    constantAfter?_eq_none noDigit ends, constantAfter?_eq_none noDigit ends]

/-- A line that ends in no way that matters, whatever it starts with. -/
theorem lineStep_of_ending {start ending : String} {c : Char} (ends : [c, ';'] <:+ ending.toList)
    (outside : c.isDigit = false ∧ c ≠ '+' ∧ c ≠ 'L' ∧ c ≠ ' ') : lineStep (start ++ ending) = .other := by
  obtain ⟨noDigit, noCount, noReturn, written⟩ := outside
  have statement := suffix_statement written (suffix_append start ends)
  have last : ((start ++ ending).toList.dropWhile (· == ' ')).getLast? = some ';' := by
    obtain ⟨before, split⟩ := statement
    rw [← split]
    simp
  unfold lineStep
  dsimp only
  rw [last, if_neg (by decide), if_neg (by decide)]
  exact plainStep_of_suffix noDigit noCount noReturn statement

/-- A start of lines that go on, unless they end in a brace. -/
def Plain (start : String) : Prop :=
  ∀ (rest : String) (d : Char), rest.toList.getLast? = some d → d ≠ '\x7b' ∧ d ≠ '\x7d' →
    lineStep (start ++ rest) = .other

namespace Plain

/-- A line that starts with none of the words that matter. -/
theorem fixed {start : String} {c : Char} (starts : (start.toList.dropWhile (· == ' ')).head? = some c)
    (outside : c ≠ 'i' ∧ c ≠ 'a') : Plain start := by
  intro rest d ends noBrace
  obtain ⟨more, spelled⟩ : ∃ more, (start ++ rest).toList.dropWhile (· == ' ') = c :: more := by
    obtain ⟨first, isFirst⟩ := List.head?_eq_some_iff.mp starts
    rw [String.toList_append, List.dropWhile_append, isFirst]
    exact ⟨_, rfl⟩
  have last : (c :: more).getLast? = some d := by
    obtain ⟨blank, whole⟩ := List.dropWhile_suffix (l := (start ++ rest).toList) (· == ' ')
    have same : (start ++ rest).toList.getLast? = some d := by
      rw [String.toList_append, List.getLast?_append, ends]
      rfl
    rw [← same, ← whole, spelled, List.getLast?_append_of_ne_nil _ (List.cons_ne_nil _ _)]
  have differs (text : String) {e : Char} (isHead : text.toList.head? = some e) (other : c ≠ e) :
      text.toList.isPrefixOf (c :: more) = false := by
    obtain ⟨tail, isTail⟩ := List.head?_eq_some_iff.mp isHead
    rw [isTail, List.isPrefixOf, beq_false_of_ne other.symm, Bool.false_and]
  have number (text : String) {e : Char} (isHead : text.toList.head? = some e) (other : c ≠ e) :
      constantAfter? text (c :: more) = none := by
    unfold constantAfter?
    rw [differs text isHead other]
    rfl
  have uncounted : c :: more ≠ "argno++;".toList := fun same => outside.2 (List.cons.inj same).1
  unfold lineStep plainStep
  dsimp only
  rw [spelled, last, if_neg fun same => noBrace.1 (Option.some.inj same),
    if_neg fun same => noBrace.2 (Option.some.inj same), differs "if (" rfl outside.1, Bool.false_and,
    if_neg Bool.false_ne_true, if_neg uncounted, number "argno = " rfl outside.2,
    number "int argno=" rfl outside.1]

theorem append {start : String} (plain : Plain start) (more : String) : Plain (start ++ more) := by
  intro rest d ends noBrace
  rw [String.append_assoc]
  refine plain (more ++ rest) d ?_ noBrace
  rw [String.toList_append, List.getLast?_append, ends]
  rfl

end Plain

/-- The line that goes to an argument. -/
theorem lineStep_number (value : Nat) : lineStep s!"  argno = {value};" = .set value := by
  have statement : (s!"  argno = {value};").toList.dropWhile (· == ' ') =
      "argno = ".toList ++ (Nat.toDigits 10 value ++ [';']) := by
    have written : s!"  argno = {value};" = "  argno = " ++ value.repr ++ ";" := rfl
    rw [written]
    simp [Nat.repr]
  have last : ("argno = ".toList ++ (Nat.toDigits 10 value ++ [';'])).getLast? = some ';' := by
    rw [← List.append_assoc]
    exact List.getLast?_concat
  have digits : (("argno = ".toList ++ (Nat.toDigits 10 value ++ [';'])).dropLast).drop
      "argno = ".toList.length = Nat.toDigits 10 value := by
    rw [← List.append_assoc, List.dropLast_concat, List.drop_left]
  have found : constantAfter? "argno = " ("argno = ".toList ++ (Nat.toDigits 10 value ++ [';'])) =
      some value := by
    have begins : "argno = ".toList.isPrefixOf ("argno = ".toList ++ (Nat.toDigits 10 value ++ [';'])) =
        true := List.isPrefixOf_iff_prefix.mpr (List.prefix_append _ _)
    have written : (Nat.toDigits 10 value).isEmpty = false := by
      rw [List.isEmpty_eq_false_iff]
      exact Nat.toDigits_ne_nil
    unfold constantAfter?
    dsimp only
    rw [digits, begins, written, all_isDigit_toDigits, last, Nat.ofDigitChars_ten_toDigits]
    rfl
  have uncounted : "argno = ".toList ++ (Nat.toDigits 10 value ++ [';']) ≠ "argno++;".toList := by
    intro same
    have start := congrArg (List.take 6) same
    rw [List.take_append_of_le_length (by decide)] at start
    exact absurd start (by decide)
  unfold lineStep plainStep
  dsimp only
  rw [statement, last, if_neg (by decide), if_neg (by decide), found, if_neg uncounted]
  rfl

/-- Whether a line has the condition that an array is not empty, a product that starts with one. -/
def isGuard (line : String) : Bool :=
  "if (1".toList.isPrefixOf (line.toList.dropWhile (· == ' '))

/-- A start of lines with a condition, a guard or not, that open a block or leave the wrapper. -/
def Decides (guard : Bool) (start : String) : Prop :=
  ∀ rest : String, isGuard (start ++ rest) = guard ∧
    (rest.toList.getLast? = some '\x7b' → lineStep (start ++ rest) = .opens true) ∧
    (" return NULL;".toList <:+ rest.toList → lineStep (start ++ rest) = .leaveIf)

namespace Decides

/-- A condition, and whether it is the guard of a block. -/
theorem fixed {guard : Bool} {start : String} {c : Char} {more : List Char}
    (starts : start.toList.dropWhile (· == ' ') = "if (".toList ++ c :: more)
    (isFirst : (c == '1') = guard) : Decides guard start := by
  intro rest
  have statement : (start ++ rest).toList.dropWhile (· == ' ') =
      "if (".toList ++ c :: (more ++ rest.toList) := by
    rw [String.toList_append, List.dropWhile_append, starts]
    exact List.append_assoc _ (c :: more) _
  have begins : "if (".toList.isPrefixOf ("if (".toList ++ c :: (more ++ rest.toList)) = true :=
    List.isPrefixOf_iff_prefix.mpr (List.prefix_append _ _)
  have last {d : Char} (ends : rest.toList.getLast? = some d) :
      ("if (".toList ++ c :: (more ++ rest.toList)).getLast? = some d := by
    have behind : "if (".toList ++ c :: (more ++ rest.toList) =
        "if (".toList ++ c :: more ++ rest.toList := (List.append_assoc _ (c :: more) _).symm
    rw [behind, List.getLast?_append, ends]
    rfl
  refine ⟨?_, fun ends => ?_, fun ends => ?_⟩
  · unfold isGuard
    rw [statement, ← isFirst]
    show ['i', 'f', ' ', '(', '1'].isPrefixOf ('i' :: 'f' :: ' ' :: '(' :: c :: _) = _
    simp [List.isPrefixOf, eq_comm]
  · unfold lineStep
    dsimp only
    rw [statement, last ends, if_pos rfl, begins]
  · have closed : rest.toList.getLast? = some ';' := by
      obtain ⟨before, whole⟩ := ends
      rw [← whole, List.getLast?_append_of_ne_nil _ (by decide)]
      rfl
    have returns : " return NULL;".toList.isSuffixOf ("if (".toList ++ c :: (more ++ rest.toList)) =
        true := by
      rw [List.isSuffixOf_iff_suffix, ← List.cons_append, ← List.append_assoc]
      exact ends.trans (List.suffix_append _ _)
    unfold lineStep plainStep
    dsimp only
    rw [statement, last closed, if_neg (by decide), if_neg (by decide), begins, returns]
    rfl

theorem append {guard : Bool} {start : String} (decides : Decides guard start) (more : String) :
    Decides guard (start ++ more) := by
  intro rest
  obtain ⟨isGuard, opens, leaves⟩ := decides (more ++ rest)
  rw [String.append_assoc]
  refine ⟨isGuard, fun ends => opens ?_, fun ends => leaves ?_⟩
  · rw [String.toList_append, List.getLast?_append, ends]
    rfl
  · rw [String.toList_append]
    exact ends.trans (List.suffix_append _ _)

end Decides

/-! ### Ways through a wrapper -/

/-- Where a way through a wrapper stands. -/
structure Walk where
  /-- The number of the current argument, once it is declared. -/
  number : Option Nat := none
  /-- How many blocks are open in a block that is passed over, itself included. -/
  passed : Nat := 0
  /-- Whether the wrapper has been left. -/
  left : Bool := false
  deriving DecidableEq, Repr

namespace Walk

/-- The way across a line, whose condition holds or not. -/
def step (walk : Walk) (decided : Bool × String) : Walk :=
  if walk.left then walk
  else if walk.passed = 0 then
    match lineStep decided.2 with
    | .declare value => { walk with number := some value }
    | .next => { walk with number := walk.number.map (· + 1) }
    | .set value => { walk with number := walk.number.map fun _ => value }
    | .leave => { walk with left := true }
    | .leaveIf => { walk with left := decided.1 }
    | .opens conditional => if conditional && !decided.1 then { walk with passed := 1 } else walk
    | .closes => walk
    | .other => walk
  else
    match lineStep decided.2 with
    | .opens _ => { walk with passed := walk.passed + 1 }
    | .closes => { walk with passed := walk.passed - 1 }
    | .leave => { walk with passed := walk.passed - 1 }
    | _ => walk

/-- **The way through lines**, for given outcomes of their conditions. -/
def run (walk : Walk) (decided : List (Bool × String)) : Walk :=
  decided.foldl step walk

/-- A walk goes on where it stopped. -/
theorem run_append (walk : Walk) (first second : List (Bool × String)) :
    walk.run (first ++ second) = (walk.run first).run second :=
  List.foldl_append

/-- Nothing happens after the wrapper has been left. -/
theorem run_of_left {walk : Walk} (left : walk.left = true) (decided : List (Bool × String)) :
    walk.run decided = walk := by
  induction decided with
  | nil => rfl
  | cons first decided ih =>
      have stays : walk.step first = walk := by rw [step, left, if_pos rfl]
      rw [run, List.foldl_cons, stays]
      exact ih

end Walk

/-- **What every way through lines does to the number.** It leaves the wrapper or comes to the end, where
the number has changed in a known way; if no condition holds but guards, it comes to the end. Lines that
are passed over are passed over as a whole. -/
structure Leads (lines : List String) (change : Option Nat → Option Nat) : Prop where
  ends : ∀ decided, decided.map Prod.snd = lines → ∀ number,
    ((Walk.mk number 0 false).run decided).left = true ∨
      (Walk.mk number 0 false).run decided = ⟨change number, 0, false⟩
  comes : ∀ decided, decided.map Prod.snd = lines → (∀ line ∈ decided, line.1 → isGuard line.2) →
    ∀ number, (Walk.mk number 0 false).run decided = ⟨change number, 0, false⟩
  passes : ∀ decided, decided.map Prod.snd = lines → ∀ number open',
    (Walk.mk number (open' + 1) false).run decided = ⟨number, open' + 1, false⟩

namespace Leads

variable {lines more : List String} {change then' : Option Nat → Option Nat}

theorem congr (leads : Leads lines change) (same : ∀ number, change number = then' number) :
    Leads lines then' :=
  (funext same : change = then') ▸ leads

theorem nil : Leads [] id := by
  have empty {decided : List (Bool × String)} (none : decided.map Prod.snd = []) : decided = [] :=
    List.map_eq_nil_iff.mp none
  refine ⟨fun decided none number => .inr ?_, fun decided none _ number => ?_,
    fun decided none number open' => ?_⟩ <;> rw [empty none] <;> rfl

/-- Lines, one after the other: the changes follow each other. -/
theorem append (first : Leads lines change) (second : Leads more then') :
    Leads (lines ++ more) (then' ∘ change) := by
  refine ⟨fun decided spelled number => ?_, fun decided spelled guards number => ?_,
    fun decided spelled number open' => ?_⟩
  · obtain ⟨before, after, rfl, isFirst, isSecond⟩ := List.map_eq_append_iff.mp spelled
    rw [Walk.run_append]
    rcases first.ends before isFirst number with left | done
    · rw [Walk.run_of_left left]
      exact .inl left
    · rw [done]
      exact second.ends after isSecond (change number)
  · obtain ⟨before, after, rfl, isFirst, isSecond⟩ := List.map_eq_append_iff.mp spelled
    rw [List.forall_mem_append] at guards
    rw [Walk.run_append, first.comes before isFirst guards.1, second.comes after isSecond guards.2]
    rfl
  · obtain ⟨before, after, rfl, isFirst, isSecond⟩ := List.map_eq_append_iff.mp spelled
    rw [Walk.run_append, first.passes before isFirst, second.passes after isSecond]

/-- Lines that leave the number as it is, after others. -/
theorem thenKeeps (first : Leads lines change) (second : Leads more id) : Leads (lines ++ more) change :=
  first.append second

/-- One line that is no part of a block. -/
theorem line {text : String} (here : ∀ holds number,
      (Walk.mk number 0 false).step (holds, text) = ⟨change number, 0, false⟩)
    (behind : ∀ holds number open',
      (Walk.mk number (open' + 1) false).step (holds, text) = ⟨number, open' + 1, false⟩) :
    Leads [text] change := by
  have single {decided : List (Bool × String)} (spelled : decided.map Prod.snd = [text]) :
      ∃ holds, decided = [(holds, text)] := by
    obtain ⟨⟨holds, _⟩, rfl, rfl⟩ := List.map_eq_singleton_iff.mp spelled
    exact ⟨holds, rfl⟩
  refine ⟨fun decided spelled number => .inr ?_, fun decided spelled _ number => ?_,
    fun decided spelled number open' => ?_⟩
  · obtain ⟨holds, rfl⟩ := single spelled
    exact here holds number
  · obtain ⟨holds, rfl⟩ := single spelled
    exact here holds number
  · obtain ⟨holds, rfl⟩ := single spelled
    exact behind holds number open'

theorem other {text : String} (isOther : lineStep text = .other) : Leads [text] id :=
  line (fun holds number => by simp [Walk.step, isOther])
    (fun holds number open' => by simp [Walk.step, isOther])

theorem next {text : String} (counts : lineStep text = .next) : Leads [text] (Option.map (· + 1)) :=
  line (fun holds number => by simp [Walk.step, counts])
    (fun holds number open' => by simp [Walk.step, counts])

theorem set {text : String} {value : Nat} (sets : lineStep text = .set value) :
    Leads [text] (Option.map fun _ => value) :=
  line (fun holds number => by simp [Walk.step, sets])
    (fun holds number open' => by simp [Walk.step, sets])

theorem declare {text : String} {value : Nat} (declares : lineStep text = .declare value) :
    Leads [text] fun _ => some value :=
  line (fun holds number => by simp [Walk.step, declares])
    (fun holds number open' => by simp [Walk.step, declares])

/-- Lines that do not matter. -/
theorem allOther (each : ∀ text ∈ lines, lineStep text = .other) : Leads lines id := by
  induction lines with
  | nil => exact nil
  | cons text lines ih =>
      obtain ⟨here, later⟩ := List.forall_mem_cons.mp each
      exact (other here).append (ih later)

/-- A line that may leave the wrapper. -/
theorem leaveIf {text : String} (leaves : lineStep text = .leaveIf) (noGuard : isGuard text = false) :
    Leads [text] id := by
  refine ⟨fun decided spelled number => ?_, fun decided spelled guards number => ?_,
    fun decided spelled number open' => ?_⟩
  · obtain ⟨⟨holds, _⟩, rfl, rfl⟩ := List.map_eq_singleton_iff.mp spelled
    cases holds with
    | true => exact .inl (by simp [Walk.run, Walk.step, leaves])
    | false => exact .inr (by simp [Walk.run, Walk.step, leaves])
  · obtain ⟨⟨holds, _⟩, rfl, rfl⟩ := List.map_eq_singleton_iff.mp spelled
    cases holds with
    | true =>
        rw [guards _ List.mem_cons_self rfl] at noGuard
        cases noGuard
    | false => simp [Walk.run, Walk.step, leaves]
  · obtain ⟨⟨holds, _⟩, rfl, rfl⟩ := List.map_eq_singleton_iff.mp spelled
    simp [Walk.run, Walk.step, leaves]

/-- **A refusal**: a condition that leaves the wrapper if it holds. -/
theorem refusal {condition message exit : String} (opens : lineStep condition = .opens true)
    (noGuard : isGuard condition = false) (prints : lineStep message = .other)
    (leaves : lineStep exit = .leave) : Leads [condition, message, exit] id := by
  have parts {decided : List (Bool × String)}
      (spelled : decided.map Prod.snd = [condition, message, exit]) :
      ∃ holds first second, decided = [(holds, condition), (first, message), (second, exit)] := by
    obtain ⟨⟨holds, _⟩, rest, rfl, rfl, later⟩ := List.map_eq_cons_iff.mp spelled
    obtain ⟨⟨first, _⟩, rest, rfl, rfl, final⟩ := List.map_eq_cons_iff.mp later
    obtain ⟨⟨second, _⟩, rfl, rfl⟩ := List.map_eq_singleton_iff.mp final
    exact ⟨holds, first, second, rfl⟩
  refine ⟨fun decided spelled number => ?_, fun decided spelled guards number => ?_,
    fun decided spelled number open' => ?_⟩
  · obtain ⟨holds, first, second, rfl⟩ := parts spelled
    cases holds with
    | true => exact .inl (by simp [Walk.run, Walk.step, opens, prints, leaves])
    | false => exact .inr (by simp [Walk.run, Walk.step, opens, prints, leaves])
  · obtain ⟨holds, first, second, rfl⟩ := parts spelled
    cases holds with
    | true =>
        rw [guards _ List.mem_cons_self rfl] at noGuard
        cases noGuard
    | false => simp [Walk.run, Walk.step, opens, prints, leaves]
  · obtain ⟨holds, first, second, rfl⟩ := parts spelled
    simp [Walk.run, Walk.step, opens, prints, leaves]

/-- **A block**, which may be under a condition if it does not change the number. -/
theorem block {first last : String} {conditional : Bool} (opens : lineStep first = .opens conditional)
    (closes : lineStep last = .closes) (inner : Leads lines change)
    (same : conditional = true → change = id) : Leads (first :: (lines ++ [last])) change := by
  have parts {decided : List (Bool × String)}
      (spelled : decided.map Prod.snd = first :: (lines ++ [last])) :
      ∃ holds body final, decided = (holds, first) :: (body ++ [(final, last)]) ∧
        body.map Prod.snd = lines := by
    obtain ⟨⟨holds, _⟩, rest, rfl, rfl, later⟩ := List.map_eq_cons_iff.mp spelled
    obtain ⟨body, rest, rfl, isBody, ending⟩ := List.map_eq_append_iff.mp later
    obtain ⟨⟨final, _⟩, rfl, rfl⟩ := List.map_eq_singleton_iff.mp ending
    exact ⟨holds, body, final, rfl, isBody⟩
  have entered (holds : Bool) (number : Option Nat) :
      (Walk.mk number 0 false).step (holds, first) = ⟨number, 0, false⟩ ∨
        conditional = true ∧ (Walk.mk number 0 false).step (holds, first) = ⟨number, 0 + 1, false⟩ := by
    cases conditional <;> cases holds <;> simp [Walk.step, opens]
  refine ⟨fun decided spelled number => ?_, fun decided spelled guards number => ?_,
    fun decided spelled number open' => ?_⟩
  · obtain ⟨holds, body, final, rfl, isBody⟩ := parts spelled
    rw [Walk.run, List.foldl_cons]
    rcases entered holds number with goesIn | ⟨isConditional, goesBy⟩
    · rw [goesIn]
      show Walk.left (Walk.run _ _) = true ∨ Walk.run _ _ = _
      rw [Walk.run_append]
      rcases inner.ends body isBody number with left | done
      · rw [Walk.run_of_left left]
        exact .inl left
      · rw [done]
        exact .inr (by simp [Walk.run, Walk.step, closes])
    · rw [goesBy]
      show Walk.left (Walk.run _ _) = true ∨ Walk.run _ _ = _
      rw [Walk.run_append, inner.passes body isBody, same isConditional]
      exact .inr (by simp [Walk.run, Walk.step, closes])
  · obtain ⟨holds, body, final, rfl, isBody⟩ := parts spelled
    have inside : ∀ line ∈ body, line.1 → isGuard line.2 := fun line member =>
      guards line (List.mem_cons_of_mem _ (List.mem_append_left _ member))
    rw [Walk.run, List.foldl_cons]
    rcases entered holds number with goesIn | ⟨isConditional, goesBy⟩
    · rw [goesIn]
      show Walk.run _ _ = _
      rw [Walk.run_append, inner.comes body isBody inside]
      simp [Walk.run, Walk.step, closes]
    · rw [goesBy]
      show Walk.run _ _ = _
      rw [Walk.run_append, inner.passes body isBody, same isConditional]
      simp [Walk.run, Walk.step, closes]
  · obtain ⟨holds, body, final, rfl, isBody⟩ := parts spelled
    have deeper : (Walk.mk number (open' + 1) false).step (holds, first) =
        ⟨number, open' + 1 + 1, false⟩ := by simp [Walk.step, opens]
    rw [Walk.run, List.foldl_cons, deeper]
    show Walk.run _ _ = _
    rw [Walk.run_append, inner.passes body isBody]
    simp [Walk.run, Walk.step, closes]

/-- A condition whose block refuses an argument. -/
theorem refuse {start rest indent : String} (decides : Decides false start)
    (opens : rest.toList.getLast? = some '\x7b') (leaves : lineStep (indent ++ "goto err;\x7d") = .leave)
    (error : CallError) : Leads ((start ++ rest) :: ForeignGlue.refuse indent error) id :=
  refusal ((decides rest).2.1 opens) (decides rest).1
    (lineStep_of_ending (by decide : [')', ';'] <:+ ");".toList) (by decide)) leaves

/-- The lines of items one after the other, if none of them failed. -/
theorem flatMap {α : Type} {items : List α} {draftAt : α → Draft String}
    {changeAt : α → Option Nat → Option Nat}
    (each : ∀ item ∈ items, ∀ lines, draftAt item = .ofList lines → Leads lines (changeAt item))
    (spelled : items.flatMap draftAt = Draft.ofList lines) :
    Leads lines fun number => items.foldl (fun number item => changeAt item number) number := by
  induction items generalizing lines with
  | nil =>
      obtain rfl := ofList_injective (show Draft.ofList [] = .ofList lines from spelled)
      exact nil
  | cons item items ih =>
      obtain ⟨here, later⟩ := List.forall_mem_cons.mp each
      obtain ⟨before, after, rfl, first, second⟩ := List.append_eq_map_iff.mp spelled
      exact (here before first.symm).append (ih later second.symm)

/-- Lines for the items of a list, each with its own change. -/
theorem flatMapLines {α : Type} {items : List α} {linesAt : α → List String}
    {changeAt : α → Option Nat → Option Nat} (each : ∀ item ∈ items, Leads (linesAt item) (changeAt item)) :
    Leads (items.flatMap linesAt) fun number =>
      items.foldl (fun number item => changeAt item number) number := by
  have drafts : ∀ item ∈ items, ∀ lines, Draft.ofList (linesAt item) = .ofList lines →
      Leads lines (changeAt item) := by
    intro item member lines spelled
    obtain rfl := ofList_injective spelled
    exact each item member
  exact flatMap drafts List.map_flatMap.symm

end Leads

/-! ### Conversions -/

/-- **The lines of a conversion** go to the next argument. -/
theorem Conversion.leads_lines (conversion : Conversion) :
    Leads conversion.lines (Option.map (· + 1)) := by
  have counts : Leads ["  argno++;"] (Option.map (· + 1)) := .next (by decide)
  cases conversion with
  | record index typeName mismatch =>
      have condition : Decides false "  if (!isforthon || strcmp(((ForthonObject *)pyobj[" :=
        .fixed rfl rfl
      have object : lineStep s!"  PyObject *t = PyObject_Type(pyobj[{index}]);" = .other :=
        lineStep_of_ending (by decide : [')', ';'] <:+ "]);".toList) (by decide)
      have mistyped : Leads ((s!"  if (!isforthon || strcmp(((ForthonObject *)pyobj[{index}])->typename," ++
          s!"\"{typeName}\") != 0) \x7b") :: refuse "    " mismatch) id := by
        refine .refuse ((condition.append _).append _) ?_ (by decide) mismatch
        rw [String.toList_append, List.getLast?_append]
        rfl
      have named : Leads
          ["  int isforthon = strcmp(((PyTypeObject *)t)->tp_name,\"Forthon\") == 0;", "  Py_XDECREF(t);"]
          id :=
        .allOther (by decide)
      have inner := (Leads.other object).append (named.append mistyped)
      exact counts.append (.block (by decide : lineStep "  \x7b" = .opens false) (by decide) inner
        fun _ => rfl)
  | buffer index element convention mismatch failure descriptor =>
      have condition : Decides false "  if (!Forthon_checksubroutineargtype(pyobj[" := .fixed rfl rfl
      have missing : Decides false "  if (ax[" := .fixed rfl rfl
      have mistyped : Leads (s!"  if (!Forthon_checksubroutineargtype(pyobj[{index}],{element})) \x7b" ::
          refuse "    " mismatch) id :=
        .refuse (((condition.append _).append _).append _) (by decide) (by decide) mismatch
      have failed : Leads (s!"  if (ax[{index}] == NULL) \x7b" :: refuse "    " failure) id :=
        .refuse (missing.append _) (by decide) (by decide) failure
      have made : lineStep s!"  ax[{index}] = {bufferText index element convention};" = .other := by
        have call : [')'] <:+ (bufferText index element convention).toList := by
          cases convention with
          | foreign => exact suffix_append _ (by decide : [')'] <:+ ")".toList)
          | plain => exact suffix_append _ (by decide : [')'] <:+ ",0,0)".toList)
        have ends : [')', ';'] <:+ (bufferText index element convention ++ ";").toList := by
          obtain ⟨text, isText⟩ := call
          rw [String.toList_append, ← isText]
          exact ⟨text, by simp⟩
        have line : s!"  ax[{index}] = {bufferText index element convention};" =
            s!"  ax[{index}] = " ++ (bufferText index element convention ++ ";") :=
          String.append_assoc
        rw [line]
        exact lineStep_of_ending ends (by decide)
      refine counts.append (mistyped.append ((Leads.other made).append (failed.thenKeeps ?_)))
      cases descriptor with
      | none => exact .nil
      | some number =>
          exact .other (lineStep_of_ending (by decide : [')', ';'] <:+ "]));".toList) (by decide))

/-! ### Shape checks -/

namespace ShapeCheck

variable (check : ShapeCheck) (routine : Routine) (scope : Scope)

/-- The check of a rank sets the number of its argument. -/
theorem leads_rankLines :
    Leads (check.rankLines routine) (Option.map fun _ => check.index + 1) := by
  have condition : Decides false "  if (!(" := .fixed rfl rfl
  unfold rankLines
  dsimp only
  refine (Leads.set (lineStep_number (check.index + 1))).thenKeeps ?_
  split
  · exact .refuse (((condition.append _).append _).append _) (by decide) (by decide) _
  · exact .refuse (((condition.append _).append _).append _) (by decide) (by decide) _

/-- The check of an extent leaves the number. -/
theorem leads_extentLines (known : KnownExtent) :
    Leads (check.extentLines routine scope known) id := by
  have size : Plain "    _n = (int)" := .fixed rfl (by decide)
  have rankCondition : Decides false "    if (!(PyArray_NDIM(ax[" := .fixed rfl rfl
  have condition : Decides false "    if (!(_n == " := .fixed rfl rfl
  unfold extentLines
  dsimp only
  refine (Leads.other ((size.append _) ";" ';' rfl (by decide))).thenKeeps ?_
  split
  · exact .refuse (((rankCondition.append _).append _).append _) (by decide) (by decide) _
  · exact .refuse (condition.append _) (by decide) (by decide) _

/-- The extents of an array that is not empty. -/
theorem leads_guardedLines (extents : List KnownExtent) :
    Leads (check.guardedLines routine scope extents) id := by
  have opens : lineStep s!"  if ({scope.nonzeroGuard (extents.map KnownExtent.extent)}) \x7b" =
      .opens true := by
    have start : Decides true ("  if (" ++ "1") := .fixed rfl rfl
    have condition : Decides true ("  if (" ++ scope.nonzeroGuard (extents.map KnownExtent.extent)) := by
      rw [Scope.nonzeroGuard, ← String.append_assoc, ← String.append_assoc]
      exact (start.append _).append _
    exact (condition _).2.1 (by decide)
  have inner : Leads (extents.flatMap (check.extentLines routine scope)) id := by
    have each := Leads.flatMapLines fun known (_ : known ∈ extents) =>
      check.leads_extentLines routine scope known
    exact each.congr fun number => List.foldl_fixed' (fun _ => rfl) _
  unfold guardedLines
  split
  · exact .nil
  · exact .block opens (by decide) inner fun _ => rfl

variable {check routine scope} in
/-- The lines of a check, if none of them failed. -/
theorem exists_extents {lines : List String}
    (spelled : check.lines routine scope = .ofList lines) :
    ∃ extents, check.extents = .ok extents ∧
      lines = check.rankLines routine ++ check.guardedLines routine scope extents := by
  obtain ⟨first, second, rfl, isRank, isRest⟩ := List.append_eq_map_iff.mp spelled
  obtain rfl := ofList_injective isRank.symm
  cases known : check.extents with
  | error error =>
      rw [known] at isRest
      cases second <;> cases isRest
  | ok extents =>
      rw [known] at isRest
      obtain rfl := ofList_injective isRest.symm
      exact ⟨extents, rfl, rfl⟩

/-- **The lines of a check** go to its argument, if none of them failed. -/
theorem leads_lines {lines : List String} (spelled : check.lines routine scope = .ofList lines) :
    Leads lines (Option.map fun _ => check.index + 1) := by
  obtain ⟨extents, -, rfl⟩ := exists_extents spelled
  exact (check.leads_rankLines routine).thenKeeps (check.leads_guardedLines routine scope extents)

end ShapeCheck

/-- Items of which each goes to the next argument. -/
theorem foldl_next {α : Type} (items : List α) (number : Option Nat) :
    items.foldl (fun number _ => number.map (· + 1)) number = number.map (· + items.length) := by
  induction items generalizing number with
  | nil => simp
  | cons item items ih =>
      rw [List.foldl_cons, ih, Option.map_map]
      congr 1
      funext before
      exact (Nat.add_right_comm before items.length 1).symm

/-- The last item that goes to an argument decides. -/
theorem foldl_number {α : Type} (items : List α) (numberOf : α → Nat) (number : Option Nat) :
    items.foldl (fun number item => number.map fun _ => numberOf item) number =
      number.map fun before => (items.map numberOf).getLast?.getD before := by
  induction items generalizing number with
  | nil => simp
  | cons item items ih =>
      rw [List.foldl_cons, ih, Option.map_map, List.map_cons, List.getLast?_cons]
      rfl

namespace Context

variable {ctx : Context} {routine : Routine} {lines : List String}

/-- **The lines of all checks** go to the last checked argument. -/
theorem leads_shapeCheckLines (spelled : ctx.shapeCheckLines routine = .ofList lines) :
    Leads lines (Option.map fun before =>
      (routine.checkedArguments.map fun checked => checked.1 + 1).getLast?.getD before) := by
  have listed : (ctx.shapeChecks routine).map (fun check => check.index + 1) =
      routine.checkedArguments.map fun checked => checked.1 + 1 := by
    simp [shapeChecks, Routine.checkedArguments]
  unfold shapeCheckLines at spelled
  dsimp only at spelled
  rw [← listed]
  split at spelled
  · next none =>
      obtain rfl := ofList_injective (show Draft.ofList [] = .ofList lines from spelled)
      rw [List.isEmpty_iff.mp none]
      exact Leads.nil.congr fun number => by simp
  · obtain ⟨before, last, rfl, isBefore, isLast⟩ := List.append_eq_map_iff.mp spelled
    obtain rfl := ofList_injective (show Draft.ofList ["  \x7d"] = .ofList last from isLast.symm)
    obtain ⟨opening, inner, rfl, isOpening, isInner⟩ := List.append_eq_map_iff.mp isBefore.symm
    obtain rfl := ofList_injective isOpening.symm
    have checks := Leads.flatMap (fun (check : ShapeCheck) _ lines spelled =>
      check.leads_lines routine ctx.scope spelled) isInner.symm
    have reads : Leads (["  int _n;"] ++ (ctx.sizingReads routine).map SizingRead.line) id := by
      refine .allOther (List.forall_mem_append.mpr ⟨by decide, List.forall_mem_map.mpr fun read _ => ?_⟩)
      exact lineStep_of_ending (by decide : [')', ';'] <:+ "]));".toList) (by decide)
    refine Leads.congr (Leads.block (by decide : lineStep "  \x7b" = .opens false) (by decide)
      (reads.append checks) fun isTrue => absurd isTrue Bool.false_ne_true) fun number => ?_
    exact foldl_number _ _ _

/-- The declarations start the number at zero. -/
theorem leads_openingLines (ctx : Context) (routine : Routine) :
    Leads (ctx.openingLines routine) fun _ => some 0 := by
  have linesIf {condition : Bool} {lines : List String} (each : ∀ text ∈ lines, lineStep text = .other) :
      Leads (linesIf condition lines) id := by
    cases condition with
    | false => exact .nil
    | true => exact .allOther each
  have slots (start : String) {count : Nat} : lineStep (start ++ toString count ++ "];") = .other :=
    lineStep_of_ending (by decide : [']', ';'] <:+ "];".toList) (by decide)
  have clears : Plain "  for (i=0;i<" := .fixed rfl (by decide)
  have parses : Decides false "  if (!PyArg_ParseTuple(args, \"" := .fixed rfl rfl
  have declares : Leads ["  int argno=0;", "  char e[256];"] fun _ => some 0 :=
    (Leads.declare (by decide)).thenKeeps (.other (by decide))
  unfold openingLines
  dsimp only
  refine ((((((Leads.append (linesIf ?_) declares).thenKeeps (linesIf ?_)).thenKeeps
    (linesIf ?_)).thenKeeps ?_).thenKeeps (linesIf ?_)).thenKeeps (linesIf ?_)).thenKeeps ?_
  · simp only [List.forall_mem_cons]
    exact ⟨slots _, slots _, by decide, List.forall_mem_nil _⟩
  · decide
  · exact List.forall_mem_singleton.mpr (slots _)
  · split
    · have result (type : String) : lineStep s!"  {type} r;" = .other :=
        lineStep_of_ending (by decide : ['r', ';'] <:+ " r;".toList) (by decide)
      exact (Leads.other (by decide)).thenKeeps (.other (result _))
    · exact .nil
  · decide
  · exact List.forall_mem_singleton.mpr ((clears.append _) _ ';' rfl (by decide))
  · obtain ⟨noGuard, -, leaves⟩ := ((parses.append _).append _).append _ ")) return NULL;"
    exact .leaveIf (leaves (by decide)) noGuard

end Context

/-! ### The number that is left -/

/-- An argument with a shape: one with bounds that is no record and no text. -/
def Argument.Shaped (argument : Argument) : Prop :=
  argument.bounds ≠ [] ∧ (∀ name, argument.type ≠ .record name) ∧ argument.type ≠ .character

/-- The arguments with a shape are those that are checked. -/
theorem Argument.shaped_iff {argument : Argument} : argument.Shaped ↔ argument.isChecked = true := by
  unfold Shaped isChecked
  cases argument.type <;> simp [ValueType.isRecord, ValueType.isCharacter]

namespace Routine

variable {routine : Routine}

/-- **The number that a fault is attributed to**: of the last argument with a shape, or the number of
arguments if none has one. -/
def Blames (routine : Routine) (number : Nat) : Prop :=
  (∃ index declared, number = index + 1 ∧ routine.arguments[index]? = some declared ∧ declared.Shaped ∧
    ∀ later other, index < later → routine.arguments[later]? = some other → ¬other.Shaped) ∨
  (∀ declared ∈ routine.arguments, ¬declared.Shaped) ∧ number = routine.arguments.length

/-- The number of the last argument that is checked, if there is one. -/
def lastChecked (routine : Routine) : Nat :=
  (routine.checkedArguments.map fun checked => checked.1 + 1).getLast?.getD routine.arguments.length

/-- The checked arguments, under their places. -/
theorem mem_checkedArguments {index : Nat} {declared : Argument} :
    (index, declared) ∈ routine.checkedArguments ↔
      routine.arguments[index]? = some declared ∧ declared.Shaped := by
  rw [checkedArguments, List.mem_filter, Argument.shaped_iff, List.mem_mapIdx]
  refine and_congr_left fun _ => ⟨?_, fun found => ?_⟩
  · rintro ⟨place, inside, same⟩
    obtain ⟨rfl, rfl⟩ := Prod.mk.inj same
    exact List.getElem?_eq_getElem inside
  · obtain ⟨inside, rfl⟩ := List.getElem?_eq_some_iff.mp found
    exact ⟨index, inside, rfl⟩

theorem pairwise_checkedArguments (routine : Routine) :
    routine.checkedArguments.Pairwise fun first second => first.1 < second.1 := by
  refine List.Pairwise.filter _ ?_
  have increasing := List.pairwise_lt_range (n := routine.arguments.length)
  rw [← map_fst_mapIdx, List.pairwise_map] at increasing
  exact increasing

/-- Places increase along the list of checked arguments, so none is behind the last one. -/
theorem blames_lastChecked (routine : Routine) : routine.Blames routine.lastChecked := by
  rcases List.eq_nil_or_concat routine.checkedArguments with none | ⟨before, ⟨index, declared⟩, split⟩
  · refine .inr ⟨fun declared member shaped => ?_, by rw [lastChecked, none]; rfl⟩
    obtain ⟨index, inside, rfl⟩ := List.getElem_of_mem member
    have checked := mem_checkedArguments.mpr ⟨List.getElem?_eq_getElem inside, shaped⟩
    rw [none] at checked
    cases checked
  · have last : (index, declared) ∈ routine.checkedArguments := by
      rw [split]
      simp
    obtain ⟨found, shaped⟩ := mem_checkedArguments.mp last
    refine .inl ⟨index, declared, ?_, found, shaped, fun later other behind isOther shapedToo => ?_⟩
    · rw [lastChecked, split]
      simp
    · have checked := mem_checkedArguments.mpr ⟨isOther, shapedToo⟩
      have increasing := routine.pairwise_checkedArguments
      rw [split] at checked increasing
      rw [List.concat_eq_append] at checked increasing
      rcases List.mem_append.mp checked with earlier | same
      · have smaller := (List.pairwise_append.mp increasing).2.2 _ earlier _ List.mem_cons_self
        exact absurd smaller (Nat.lt_asymm behind)
      · obtain rfl := (Prod.mk.inj (List.mem_singleton.mp same)).1
        exact Nat.lt_irrefl _ behind

/-! ### Calls -/

variable {scalars : String → Option Int} {values : List HostValue} {buffers : List Buffer} {α : Type}

/-- The loop over the arguments ends at the last one that it checked. -/
theorem eq_of_checkShapes {lookup : String → Option Int} {current last : Nat}
    {pairs : List (Argument × Buffer)} (done : routine.checkShapes lookup current pairs = .ok last) :
    last = (((pairs.map Prod.fst).filter Argument.isChecked).map fun declared =>
      declared.position + 1).getLast?.getD current := by
  fun_induction checkShapes routine lookup current pairs with
  | case1 => exact (Except.ok.inj done).symm
  | case2 => cases done
  | case3 _ declared buffer pairs checked _ ih =>
      rw [ih done, List.map_cons, List.filter_cons_of_pos checked, List.map_cons, List.getLast?_cons]
      rfl
  | case4 _ declared buffer pairs unchecked ih =>
      rw [ih done, List.map_cons, List.filter_cons_of_neg unchecked]

/-- **The last argument that is checked**, by its position; the number of arguments, if none is. -/
theorem lastChecked_eq (positioned : routine.Positioned) :
    routine.lastChecked = ((routine.arguments.filter Argument.isChecked).map fun declared =>
      declared.position + 1).getLast?.getD routine.arguments.length := by
  rw [lastChecked, checkedArguments, mapIdx_arguments positioned, List.filter_map, List.map_map]
  rfl

/-- A check that passes ends at the last argument that is checked. -/
theorem eq_of_validate (positioned : routine.Positioned) {number : Nat}
    (count : buffers.length = routine.arguments.length)
    (validated : routine.validate scalars buffers = .ok number) : number = routine.lastChecked := by
  rw [eq_of_checkShapes validated, List.map_fst_zip count.ge, count, lastChecked_eq positioned]

theorem length_of_convert (converted : routine.convert values = .ok buffers) :
    buffers.length = routine.arguments.length := by
  obtain ⟨count, -, rfl⟩ := convert_eq_ok_iff.mp converted
  rw [buffersOf, List.length_zipWith, count, Nat.min_self]

/-- **A call whose arguments are accepted** does what its body does, and has a number for its fault. -/
theorem invoke_of_check (positioned : routine.Positioned)
    (accepted : routine.check scalars values = .ok buffers) (body : List Buffer → Option α) :
    routine.invoke scalars values body =
      match body buffers with
      | some result => .ok result
      | none => .error (.refused (routine.refusal routine.lastChecked .foreignFault)) := by
  obtain ⟨given, converted, validation⟩ := bind_eq_ok_iff.mp accepted
  obtain ⟨number, validated, same⟩ := bind_eq_ok_iff.mp validation
  obtain rfl := Except.ok.inj same
  have count := length_of_convert (mapError_eq_ok_iff.mp converted)
  obtain rfl := eq_of_validate positioned count validated
  rw [invoke, converted]
  show (routine.validate scalars given >>= _) = _
  rw [validated]
  rfl

/-- A call whose arguments are not accepted fails as their check does. -/
theorem invoke_of_check_error {failure : CallFailure}
    (refused : routine.check scalars values = .error failure) (body : List Buffer → Option α) :
    routine.invoke scalars values body = .error failure := by
  rcases bind_eq_error_iff.mp refused with unconverted | ⟨given, converted, invalid⟩
  · rw [invoke, unconverted]
    rfl
  · rw [invoke, converted]
    show (routine.validate scalars given >>= _) = _
    rcases bind_eq_error_iff.mp invalid with invalid | ⟨_, -, done⟩
    · rw [invalid]
      rfl
    · cases done

/-- **A call enters its body with some buffers** if its outcome depends on what the body does there. -/
def Enters (routine : Routine) (scalars : String → Option Int) (values : List HostValue)
    (buffers : List Buffer) : Prop :=
  ∃ first second : List Buffer → Option Unit, (∀ others, others ≠ buffers → first others = second others) ∧
    routine.invoke scalars values first ≠ routine.invoke scalars values second

/-- A call is entered exactly if the check passes. That it is entered shows in a body that faults, and
with which buffers in one that returns for these only. -/
theorem enters_iff (positioned : routine.Positioned) :
    routine.Enters scalars values buffers ↔ routine.check scalars values = .ok buffers := by
  constructor
  · rintro ⟨first, second, same, differs⟩
    cases outcome : routine.check scalars values with
    | error failure =>
        rw [invoke_of_check_error outcome, invoke_of_check_error outcome] at differs
        exact absurd rfl differs
    | ok given =>
        rw [invoke_of_check positioned outcome, invoke_of_check positioned outcome] at differs
        by_cases other : given = buffers
        · rw [other]
        · rw [same given other] at differs
          exact absurd rfl differs
  · intro accepted
    refine ⟨fun _ => none, fun given => if given = buffers then some () else none,
      fun others other => (if_neg other).symm, ?_⟩
    rw [invoke_of_check positioned accepted, invoke_of_check positioned accepted, if_pos rfl]
    exact fun same => by cases same

end Routine

/-! ### Wrapper and model -/

/-- Lines that open the wrapper change nothing. -/
theorem Walk.run_opening {lines : List String} (number : Option Nat)
    (each : ∀ text ∈ lines, lineStep text = .other ∨ lineStep text = .opens false)
    {decided : List (Bool × String)} (spelled : decided.map Prod.snd = lines) :
    (Walk.mk number 0 false).run decided = ⟨number, 0, false⟩ := by
  subst spelled
  induction decided with
  | nil => rfl
  | cons line decided ih =>
      rw [List.map_cons, List.forall_mem_cons] at each
      have stays : (Walk.mk number 0 false).step line = ⟨number, 0, false⟩ := by
        rcases each.1 with other | opens
        · simp [step, other]
        · simp [step, opens]
      rw [run, List.foldl_cons, stays]
      exact ih each.2

namespace Context

variable {ctx : Context} {routine : Routine}

/-- **The lines before the recovery point**, behind those that open the wrapper, go to the last argument
that is checked. The brace of the function is still open there, so its line is not among them. -/
theorem leads_untilRecovery {lines : List String} (spelled : ctx.untilRecovery routine = .ofList lines) :
    ∃ opening body, lines = opening ++ body ∧
      (∀ text ∈ opening, lineStep text = .other ∨ lineStep text = .opens false) ∧
      Leads body fun _ => some routine.lastChecked := by
  have document : Plain "static char " := .fixed rfl (by decide)
  have function : Plain "static PyObject *\n" := .fixed rfl (by decide)
  obtain ⟨first, checks, rfl, isFirst, isChecks⟩ := List.append_eq_map_iff.mp spelled
  obtain rfl := ofList_injective isFirst.symm
  have converts : Leads ((ctx.conversions routine).flatMap Conversion.lines)
      (Option.map (· + routine.arguments.length)) := by
    have each := Leads.flatMapLines fun conversion (_ : conversion ∈ ctx.conversions routine) =>
      conversion.leads_lines
    refine each.congr fun number => ?_
    rw [foldl_next, conversions, List.length_mapIdx]
  refine ⟨_, _, (List.append_assoc _ _ _).trans (List.append_assoc _ _ _), ?_, ?_⟩
  · simp only [List.forall_mem_cons]
    refine ⟨.inl ((document.append _) _ ';' ?_ (by decide)),
      .inl ((function.append _) _ ')' (by decide) (by decide)), .inr (by decide), List.forall_mem_nil _⟩
    rw [String.toList_append, List.getLast?_append]
    rfl
  · refine ((ctx.leads_openingLines routine).append
      (converts.append (leads_shapeCheckLines isChecks.symm))).congr fun number => ?_
    simp [Routine.lastChecked]

/-- **A fault is attributed to one argument.** A call enters its body exactly if its arguments are
accepted, with the buffers of the check, and returns what the body returns. If the body faults, the error
has the number of the last argument with a shape, or of all arguments if none has one. The wrapper has
that number in `argno` whenever it comes to its recovery point, and it comes there if no condition holds
other than that arrays are not empty. -/
theorem faults_attributed (positioned : routine.Positioned) :
    ∃ number, routine.Blames number ∧
      (∀ scalars values buffers,
        routine.Enters scalars values buffers ↔ routine.check scalars values = .ok buffers) ∧
      (∀ scalars values buffers (α : Type) (body : List Buffer → Option α),
        routine.check scalars values = .ok buffers →
          (∀ result, body buffers = some result → routine.invoke scalars values body = .ok result) ∧
          (body buffers = none → routine.invoke scalars values body =
            .error (.refused (routine.refusal number .foreignFault)))) ∧
      ∀ (ctx : Context) (text : String), (layOutItems (ctx.wrapperItems routine)).finish = .ok text →
        ∃ before after,
          (ctx.wrapperItems routine).flatMap Item.lines = Draft.ofList (before ++ recoveryLine :: after) ∧
          text.toList = lineChars (before ++ recoveryLine :: after) ∧ recoveryLine ∉ before ∧
          ∀ decided, decided.map Prod.snd = before →
            (((Walk.mk none 0 false).run decided).left = false →
              (Walk.mk none 0 false).run decided = ⟨some number, 0, false⟩) ∧
            ((∀ line ∈ decided, line.1 → isGuard line.2) →
              (Walk.mk none 0 false).run decided = ⟨some number, 0, false⟩) := by
  refine ⟨routine.lastChecked, routine.blames_lastChecked,
    fun scalars values buffers => Routine.enters_iff positioned,
    fun scalars values buffers α body accepted => ?_, fun ctx text done => ?_⟩
  · have outcome := Routine.invoke_of_check positioned accepted body
    refine ⟨fun result returns => ?_, fun faults => ?_⟩
    · rw [outcome, returns]
    · rw [outcome, faults]
  · obtain ⟨lines, written, chars⟩ := toList_finish_endLines done
    obtain ⟨after, split⟩ := ctx.lines_wrapperItems routine
    obtain ⟨before, rest, rfl, first, second⟩ := List.append_eq_map_iff.mp (split.symm.trans written)
    obtain rfl := ofList_injective second.symm
    refine ⟨before, after, written, chars, fun early => ?_, fun decided spelled => ?_⟩
    · exact (Prints.messages (ctx.prints_untilRecovery routine) first.symm).1 early
    · obtain ⟨opening, body, rfl, opens, leads⟩ := leads_untilRecovery first.symm
      obtain ⟨outside, inside, rfl, isOpening, isBody⟩ := List.map_eq_append_iff.mp spelled
      rw [Walk.run_append, Walk.run_opening none opens isOpening]
      refine ⟨fun stays => ?_, fun guards => ?_⟩
      · rcases leads.ends inside isBody none with left | comes
        · rw [left] at stays
          cases stays
        · exact comes
      · exact leads.comes inside isBody (List.forall_mem_append.mp guards).2 none

/-- A block that a later argument sizes, and a text between them. -/
def scale : Routine :=
  [{ name := "x", type := .real, bounds := [⟨"1", "n"⟩] }, { name := "label", type := .character },
    { name := "n", type := .integer }].foldl Routine.arg (Routine.subroutine "scale")

/-- A module with one routine. -/
def moduleOf (routine : Routine) : Context :=
  { gatherModule with inventory := { gatherModule.inventory with routines := [routine] } }

/-- Only the first argument has a shape, and a fault of the routine is blamed on it. -/
theorem faults_attributed_scale :
    scale.invoke (fun _ => none) [.array .real [3], .text "e", .int 3] (fun _ => (none : Option Unit)) =
      .error (.refused (scale.refusal 1 .foreignFault)) ∧
    ∃ before after,
      ((moduleOf scale).wrapperItems scale).flatMap Item.lines =
        Draft.ofList (before ++ recoveryLine :: after) ∧
      ((Walk.mk none 0 false).run (before.map fun line => (isGuard line, line))).number = some 1 := by
  have emitted : (layOutItems ((moduleOf scale).wrapperItems scale)).finish.toOption.isSome := by
    decide +kernel
  have accepted : (scale.check (fun _ => none) [.array .real [3], .text "e", .int 3]).toOption.isSome := by
    decide +kernel
  have positioned : scale.Positioned := Routine.positioned_foldl_arg rfl _
  obtain ⟨text, done⟩ := exists_ok_of_isSome emitted
  obtain ⟨buffers, checked⟩ := exists_ok_of_isSome accepted
  obtain ⟨number, -, -, calls, walks⟩ := faults_attributed positioned
  have computed : scale.invoke (fun _ => none) [.array .real [3], .text "e", .int 3]
      (fun _ => (none : Option Unit)) = .error (.refused (scale.refusal 1 .foreignFault)) := by
    decide +kernel
  have faulted := (calls _ _ buffers Unit (fun _ => none) checked).2 rfl
  have first : number = 1 := congrArg CallError.argument
    (CallFailure.refused.inj (Except.error.inj (faulted.symm.trans computed)))
  subst first
  obtain ⟨before, after, written, -, -, comes⟩ := walks (moduleOf scale) text done
  refine ⟨faulted, before, after, written, ?_⟩
  have spelled : (before.map fun line => (isGuard line, line)).map Prod.snd = before := by
    rw [List.map_map]
    exact List.map_id _
  rw [(comes _ spelled).2 fun line member holds => ?_]
  obtain ⟨text, -, rfl⟩ := List.mem_map.mp member
  exact holds

end Context

end ForeignGlue
