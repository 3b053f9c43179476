/-
**JSON texts read back.**

What is laid out is read as what it was made from (`parse_pretty`). The proof has two halves that
follow the reader:

* `Cuts`: a text is cut into its tokens, whatever comes after it, as long as this does not go on with a
  number. Cuts are put together by `CutsFreely.append`, `CutsFreely.andThen` and `Cuts.before`;
* `Builds`: the tokens of a value take the reader from where a value may come to where it is complete,
  whatever waits on the stack.

A list and an object are two containers of entries (`Container`): what stands between the brackets is
cut and built by one induction (`Container.exists_tokens`).

A value is one that is written (`Spelled`) if its numbers are natural numbers in decimal and its
strings and keys are quoted texts.
-/

import ForeignGlue.Json.Printer
import ForeignGlue.Proofs.CExpression.Arithmetic
import ForeignGlue.Proofs.Json.Quoted

namespace ForeignGlue.Json

open ForeignGlue.CExpression (isPlainLiteral isPlainLiteral_toDigits)

/-! ### Values that are written -/

/-- A value whose numbers are natural numbers in decimal and whose strings and keys are quoted. -/
inductive Spelled : Json → Prop
  | null : Spelled .null
  | bool (value : Bool) : Spelled (.bool value)
  | nat (value : Nat) : Spelled (.ofNat value)
  | text (value : String) : Spelled (.ofText value)
  | array {items : List Json} (each : ∀ item ∈ items, Spelled item) : Spelled (.array items)
  | object {members : List (String × Json)} (each : ∀ member ∈ members, Spelled member.2) :
      Spelled (.ofMembers members)

/-! ### Cutting a text -/

/-- A character that a number may go on with. -/
def continuesNumber (c : Char) : Bool :=
  c.isDigit || c == '.' || c == 'e' || c == 'E'

/-- What does not go on with a number. -/
def EndsNumber (rest : List Char) : Prop :=
  ∀ c ∈ rest.head?, continuesNumber c = false

/-- A text that is cut into tokens whatever comes after it. -/
def CutsFreely (text : List Char) (tokens : List Token) : Prop :=
  ∀ behind rest, tokensFrom behind 0 (text ++ rest) = tokensFrom (tokens.reverse ++ behind) 0 rest

/-- A text that is cut into tokens if what comes after it does not go on with a number. -/
def Cuts (text : List Char) (tokens : List Token) : Prop :=
  ∀ behind rest, EndsNumber rest →
    tokensFrom behind 0 (text ++ rest) = tokensFrom (tokens.reverse ++ behind) 0 rest

section Cuts

variable {text more : List Char} {tokens others : List Token}

theorem CutsFreely.cuts (free : CutsFreely text tokens) : Cuts text tokens :=
  fun behind rest _ => free behind rest

/-- Texts that are cut whatever follows, one after the other. -/
theorem CutsFreely.append (first : CutsFreely text tokens) (second : CutsFreely more others) :
    CutsFreely (text ++ more) (tokens ++ others) := by
  intro behind rest
  rw [List.append_assoc, first, second, List.reverse_append, List.append_assoc]

/-- The same, where what follows the second text decides. -/
theorem CutsFreely.andThen (first : CutsFreely text tokens) (second : Cuts more others) :
    Cuts (text ++ more) (tokens ++ others) := by
  intro behind rest ends
  rw [List.append_assoc, first, second _ _ ends, List.reverse_append, List.append_assoc]

/-- A text that does not go on with a number before it, whatever comes after the text. -/
def StandsApart (text : List Char) : Prop :=
  ∀ rest, EndsNumber (text ++ rest)

theorem StandsApart.append (apart : StandsApart text) (more : List Char) :
    StandsApart (text ++ more) := by
  intro rest
  rw [List.append_assoc]
  exact apart (more ++ rest)

/-- What comes after a number decides where it ends. -/
theorem Cuts.before (first : Cuts text tokens) (second : CutsFreely more others)
    (apart : StandsApart more) : CutsFreely (text ++ more) (tokens ++ others) := by
  intro behind rest
  rw [List.append_assoc, first _ _ (apart rest), second, List.reverse_append, List.append_assoc]

theorem tokensFrom_eq_drop (behind : List Token) (skip : Nat) (cs : List Char) :
    tokensFrom behind skip cs = tokensFrom behind 0 (cs.drop skip) :=
  Text.scan_eq_drop (fun _ => by rw [tokensFrom, tokensFrom]) (fun _ _ _ => by rw [tokensFrom]) skip cs

/-- A token is cut off, and the rest is cut behind it. -/
theorem tokensFrom_token {c : Char} {cs rest : List Char} {token : Token} (behind : List Token)
    (written : isSpace c = false)
    (found : tokenAt (c :: cs ++ rest) = some (token, (c :: cs).length)) :
    tokensFrom behind 0 (c :: cs ++ rest) = tokensFrom (token :: behind) 0 rest := by
  rw [List.cons_append] at found ⊢
  rw [tokensFrom, if_neg (by simp [written]), found]
  show tokensFrom _ cs.length (cs ++ rest) = _
  rw [tokensFrom_eq_drop, List.drop_left]

end Cuts

/-! ### Pieces of a text -/

theorem cuts_spaces {spaces : List Char} (blank : ∀ c ∈ spaces, isSpace c = true) :
    CutsFreely spaces [] := by
  induction spaces with
  | nil => exact fun _ _ => rfl
  | cons c spaces ih =>
      intro behind rest
      rw [List.cons_append, tokensFrom, if_pos (blank c List.mem_cons_self)]
      exact ih (fun other member => blank other (List.mem_cons_of_mem c member)) behind rest

/-- A new line and the blanks that indent it are no token. -/
theorem cuts_newLine (level : Nat) : CutsFreely (newLine level).toList [] := by
  refine cuts_spaces fun c member => ?_
  rw [newLine, String.toList_ofList, List.mem_cons, List.mem_replicate] at member
  rcases member with rfl | ⟨-, rfl⟩ <;> rfl

theorem standsApart_cons {c : Char} (other : continuesNumber c = false) (cs : List Char) :
    StandsApart (c :: cs) := by
  intro rest first isFirst
  obtain rfl := Option.some.inj isFirst
  exact other

theorem standsApart_newLine (level : Nat) : StandsApart (newLine level).toList := by
  rw [newLine, String.toList_ofList]
  exact standsApart_cons (by decide) _

/-- The token of a character that is one by itself. -/
def punctuation : List (Char × Token) :=
  [('\x7b', .openBrace), ('\x7d', .closeBrace), ('[', .openBracket), (']', .closeBracket),
    (':', .colon), (',', .comma)]

theorem cuts_punctuation {c : Char} {token : Token} (known : (c, token) ∈ punctuation) :
    CutsFreely [c] [token] := by
  have single (rest : List Char) : isSpace c = false ∧ tokenAt (c :: rest) = some (token, 1) := by
    simp only [punctuation, List.mem_cons, Prod.mk.injEq, List.not_mem_nil, or_false] at known
    rcases known with ⟨rfl, rfl⟩ | ⟨rfl, rfl⟩ | ⟨rfl, rfl⟩ | ⟨rfl, rfl⟩ | ⟨rfl, rfl⟩ | ⟨rfl, rfl⟩ <;>
      exact ⟨rfl, rfl⟩
  exact fun behind rest => tokensFrom_token behind (single rest).1 (single rest).2

/-- The three words. -/
theorem cuts_word {word : String} {token : Token}
    (known : (word, token) ∈ [("null", Token.null), ("true", .bool true), ("false", .bool false)]) :
    CutsFreely word.toList [token] := by
  simp only [List.mem_cons, Prod.mk.injEq, List.not_mem_nil, or_false] at known
  intro behind rest
  rcases known with ⟨rfl, rfl⟩ | ⟨rfl, rfl⟩ | ⟨rfl, rfl⟩ <;>
    exact tokensFrom_token behind rfl rfl

/-- A quoted text is one token, whatever is in it. -/
theorem cuts_inQuotes (text : String) :
    CutsFreely (inQuotes (quote text)).toList [.string (quote text)] := by
  intro behind rest
  have spelled : (inQuotes (quote text)).toList = '"' :: (quote text ++ ['"']) := by
    simp [inQuotes]
  rw [spelled]
  refine tokensFrom_token behind rfl ?_
  have ended : quote text ++ ['"'] ++ rest = quote text ++ '"' :: rest := by simp
  show (closingQuote 0 0 (quote text ++ ['"'] ++ rest)).map
    (fun length => (Token.string ((quote text ++ ['"'] ++ rest).take length), length + 2)) = _
  rw [ended, closingQuote_quote, Nat.zero_add, Option.map_some, List.take_left]
  simp

/-! ### Numbers -/

/-- The decimal spelling of a number starts with a zero only if it is the zero alone. -/
theorem head_toDigits {value : Nat} (positive : value ≠ 0) :
    (Nat.toDigits 10 value).head? ≠ some '0' := by
  have small : ∀ value < 8, value ≠ 0 → (Nat.toDigits 10 value).head? ≠ some '0' := by decide
  have plain := isPlainLiteral_toDigits value
  rw [isPlainLiteral, Bool.or_eq_true, bne_iff_ne, decide_eq_true_eq] at plain
  rcases plain with differs | below
  · exact differs
  · rw [Nat.ofDigitChars_ten_toDigits] at below
    exact small value below positive

section Numbers

variable {first : Char} {digits rest : List Char}

theorem digitCount_append (decimal : ∀ c ∈ digits, c.isDigit = true) (ends : EndsNumber rest) :
    digitCount (digits ++ rest) = digits.length := by
  have none : rest.takeWhile Char.isDigit = [] := by
    cases rest with
    | nil => rfl
    | cons c rest =>
        have other := ends c rfl
        simp only [continuesNumber, Bool.or_eq_false_iff] at other
        simp [other.1.1.1]
  rw [digitCount, List.takeWhile_append_of_pos decimal, none, List.append_nil]

/-- The digits of a whole number: a zero stands alone. -/
theorem wholeLength_append (decimal : ∀ c ∈ first :: digits, c.isDigit = true)
    (single : first = '0' → digits = []) (ends : EndsNumber rest) :
    wholeLength (first :: digits ++ rest) = some (first :: digits).length := by
  unfold wholeLength
  split
  · next tail same =>
      rw [single (List.cons.inj same).1]
      rfl
  · rw [digitCount_append decimal ends]
    rfl

theorem signLength_append (decimal : first.isDigit = true) :
    signLength (first :: digits ++ rest) = 0 := by
  unfold signLength
  split
  · next same =>
      rw [(List.cons.inj same).1] at decimal
      cases decimal
  · rfl

theorem fractionLength_of_ends (ends : EndsNumber rest) : fractionLength rest = some 0 := by
  unfold fractionLength
  split
  · exact absurd (ends '.' rfl) (by decide)
  · rfl

theorem exponentLength_of_ends (ends : EndsNumber rest) : exponentLength rest = some 0 := by
  cases rest with
  | nil => rfl
  | cons c rest =>
      have other := ends c rfl
      simp only [continuesNumber, Bool.or_eq_false_iff] at other
      rw [exponentLength, other.1.2, other.2]
      rfl

/-- A run of digits is a number, if a zero at its start stands alone. -/
theorem numberLength_append (decimal : ∀ c ∈ first :: digits, c.isDigit = true)
    (single : first = '0' → digits = []) (ends : EndsNumber rest) :
    numberLength (first :: digits ++ rest) = some (first :: digits).length := by
  rw [numberLength, signLength_append (decimal first List.mem_cons_self), List.drop_zero,
    wholeLength_append decimal single ends]
  show (do
    let fraction ← fractionLength ((first :: digits ++ rest).drop (0 + (first :: digits).length))
    let exponent ← exponentLength
      ((first :: digits ++ rest).drop (0 + (first :: digits).length + fraction))
    some (0 + (first :: digits).length + fraction + exponent)) = _
  rw [Nat.zero_add, List.drop_left, fractionLength_of_ends ends]
  show (do
    let exponent ← exponentLength ((first :: digits ++ rest).drop ((first :: digits).length + 0))
    some ((first :: digits).length + 0 + exponent)) = _
  rw [Nat.add_zero, List.drop_left, exponentLength_of_ends ends]
  rfl

/-- A digit is no other character. -/
theorem beq_eq_false_of_isDigit (isDigit : first.isDigit = true) (c : Char)
    (noDigit : c.isDigit = false) : (first == c) = false := by
  rw [beq_eq_false_iff_ne]
  rintro rfl
  rw [isDigit] at noDigit
  cases noDigit

/-- **A whole number is cut where it ends**, there being no fraction and no exponent. -/
theorem tokenAt_append (decimal : ∀ c ∈ first :: digits, c.isDigit = true)
    (single : first = '0' → digits = []) (ends : EndsNumber rest) :
    tokenAt (first :: digits ++ rest) =
      some (.number (first :: digits), (first :: digits).length) := by
  have isDigit := decimal first List.mem_cons_self
  have other := beq_eq_false_of_isDigit isDigit
  rw [List.cons_append, tokenAt]
  simp only [other '\x7b' rfl, other '\x7d' rfl, other '[' rfl, other ']' rfl, other ':' rfl,
    other ',' rfl, other '"' rfl, isDigit, Bool.or_true, Bool.false_eq_true, if_false, if_true]
  rw [← List.cons_append, numberLength_append decimal single ends, Option.map_some, List.take_left]

end Numbers

/-- A number, in decimal digits. -/
theorem cuts_digits (value : Nat) :
    Cuts (Nat.toDigits 10 value) [.number (Nat.toDigits 10 value)] := by
  intro behind rest ends
  have decimal : ∀ c ∈ Nat.toDigits 10 value, c.isDigit = true := fun c member =>
    Nat.isDigit_of_mem_toDigits (by decide) (by decide) member
  have nonempty : Nat.toDigits 10 value ≠ [] := Nat.toDigits_ne_nil
  obtain ⟨first, digits, spelled⟩ := List.exists_cons_of_ne_nil nonempty
  have single : first = '0' → digits = [] := by
    rintro rfl
    by_cases zero : value = 0
    · subst zero
      exact (List.cons.inj spelled).2.symm
    · exact absurd (congrArg List.head? spelled) (head_toDigits zero)
  rw [spelled] at decimal ⊢
  refine tokensFrom_token behind ?_ (tokenAt_append decimal single ends)
  have other := beq_eq_false_of_isDigit (decimal first List.mem_cons_self)
  simp only [isSpace, other ' ' rfl, other '\n' rfl, other '\t' rfl, other '\r' rfl, Bool.or_false]

/-! ### Reading tokens -/

/-- Tokens that take the reader from one state to another. -/
def Leads (tokens : List Token) (start target : State) : Prop :=
  tokens.foldlM step start = some target

/-- Tokens that make a value, wherever one may come. -/
def Builds (tokens : List Token) (value : Json) : Prop :=
  ∀ frames closable, Leads tokens (.value frames closable) (.done frames value)

/-- Reading goes on where it stopped. -/
theorem Leads.append {tokens others : List Token} {start between target : State}
    (first : Leads tokens start between) (second : Leads others between target) :
    Leads (tokens ++ others) start target := by
  rw [Leads, List.foldlM_append, first]
  exact second

theorem Leads.cons {token : Token} {tokens : List Token} {start between target : State}
    (first : step start token = some between) (second : Leads tokens between target) :
    Leads (token :: tokens) start target := by
  rw [Leads, List.foldlM_cons, first]
  exact second

/-- A value that is read as it is laid out. -/
def Reads (value : Json) : Prop :=
  ∀ level, ∃ tokens, Cuts (layOut level value).toList tokens ∧ Builds tokens value

/-! ### Lists and objects -/

/-- How entries that stand between two brackets are written, and how the reader goes through them. -/
structure Container (Entry : Type) where
  opening : Char × Token
  closing : Char × Token
  /-- An entry that stands at a level. -/
  text : Nat → Entry → List Char
  /-- Where the first entry may come. -/
  opened : List Frame → State
  /-- Where an entry is complete, with the entries before it last first. -/
  holding : List Frame → List Entry → Entry → State
  /-- The value of the entries. -/
  whole : List Entry → Json
  opening_known : opening ∈ punctuation
  closing_known : closing ∈ punctuation
  opens : ∀ frames closable, step (.value frames closable) opening.2 = some (opened frames)
  closes_empty : ∀ frames, step (opened frames) closing.2 = some (.done frames (whole []))
  closes : ∀ frames behind last,
    step (holding frames behind last) closing.2 = some (.done frames (whole (behind.reverse ++ [last])))

namespace Container

variable {Entry : Type} (container : Container Entry)

/-- The entries after the first, one a line, and the bracket that closes them. -/
def tail (level : Nat) : List Entry → List Char
  | [] => (newLine level).toList ++ [container.closing.1]
  | entry :: entries =>
    [','] ++ ((newLine (level + 1)).toList ++
      (container.text (level + 1) entry ++ tail level entries))

/-- The entries between their brackets. -/
def laidOut (level : Nat) : List Entry → List Char
  | [] => [container.opening.1] ++ [container.closing.1]
  | entry :: entries =>
    [container.opening.1] ++ ((newLine (level + 1)).toList ++
      (container.text (level + 1) entry ++ container.tail level entries))

/-- An entry that is read as it is written, first or behind a comma. -/
def ReadsEntry (entry : Entry) : Prop :=
  ∀ level, ∃ tokens, Cuts (container.text level entry) tokens ∧
    (∀ frames, Leads tokens (container.opened frames) (container.holding frames [] entry)) ∧
    ∀ frames behind last, Leads (.comma :: tokens) (container.holding frames behind last)
      (container.holding frames (last :: behind) entry)

variable {container}

/-- **All entries behind the first**, with what separates and closes them, are cut and read. -/
theorem exists_tail (level : Nat) {entries : List Entry}
    (each : ∀ entry ∈ entries, container.ReadsEntry entry) :
    ∃ tokens, StandsApart (container.tail level entries) ∧
      CutsFreely (container.tail level entries) tokens ∧
      ∀ frames behind last, Leads tokens (container.holding frames behind last)
        (.done frames (container.whole (behind.reverse ++ last :: entries))) := by
  induction entries with
  | nil =>
      refine ⟨[container.closing.2], (standsApart_newLine level).append _,
        (cuts_newLine level).append (cuts_punctuation container.closing_known), ?_⟩
      exact fun frames behind last => .cons (container.closes frames behind last) rfl
  | cons entry entries ih =>
      obtain ⟨rest, apart, restCut, closes⟩ := ih fun other member =>
        each other (List.mem_cons_of_mem entry member)
      obtain ⟨tokens, cut, -, follows⟩ := each entry List.mem_cons_self (level + 1)
      have comma : CutsFreely [','] [.comma] := cuts_punctuation (by decide)
      refine ⟨.comma :: tokens ++ rest, standsApart_cons (by decide) _, ?_, ?_⟩
      · exact comma.append ((cuts_newLine _).append (cut.before restCut apart))
      · intro frames behind last
        have closed := closes frames (last :: behind) entry
        rw [List.reverse_cons, List.append_assoc] at closed
        exact (follows frames behind last).append closed

/-- Entries that are read as they are written make their value, with their brackets. -/
theorem exists_tokens {entries : List Entry}
    (each : ∀ entry ∈ entries, container.ReadsEntry entry) (level : Nat) :
    ∃ tokens, Cuts (container.laidOut level entries) tokens ∧
      Builds tokens (container.whole entries) := by
  have opened := cuts_punctuation container.opening_known
  cases entries with
  | nil =>
      refine ⟨[container.opening.2, container.closing.2],
        (opened.append (cuts_punctuation container.closing_known)).cuts, ?_⟩
      exact fun frames closable =>
        .cons (container.opens frames closable) (.cons (container.closes_empty frames) rfl)
  | cons entry entries =>
      obtain ⟨tokens, cut, starts, -⟩ := each entry List.mem_cons_self (level + 1)
      obtain ⟨rest, apart, restCut, closes⟩ := exists_tail level fun other member =>
        each other (List.mem_cons_of_mem entry member)
      refine ⟨container.opening.2 :: (tokens ++ rest), ?_, fun frames closable => ?_⟩
      · exact (opened.append ((cuts_newLine _).append (cut.before restCut apart))).cuts
      · exact .cons (container.opens frames closable)
          ((starts frames).append (closes frames [] entry))

end Container

/-- A list holds its items. -/
def listItems : Container Json where
  opening := ('[', .openBracket)
  closing := (']', .closeBracket)
  text level item := (layOut level item).toList
  opened frames := .value (.array [] :: frames) true
  holding frames behind last := .done (.array behind :: frames) last
  whole := .array
  opening_known := by decide
  closing_known := by decide
  opens _ _ := rfl
  closes_empty _ := rfl
  closes frames behind last := by simp [step, stepDone]

/-- Items of a list as they are laid out. -/
theorem toList_layOutItems (level : Nat) (items : List Json) :
    (layOutItems (level + 1) items ++ newLine level ++ "]").toList = listItems.tail level items := by
  induction items with
  | nil => simp [layOutItems, Container.tail, listItems]
  | cons item items ih =>
      rw [Container.tail, ← ih]
      simp [layOutItems, listItems]

/-- A list is read back if its items are. -/
theorem reads_array {items : List Json} (each : ∀ item ∈ items, Reads item) :
    Reads (.array items) := by
  intro level
  have text : (layOut level (.array items)).toList = listItems.laidOut level items := by
    cases items with
    | nil => simp [layOut, Container.laidOut, listItems]
    | cons item items =>
        rw [Container.laidOut, ← toList_layOutItems]
        simp [layOut, listItems]
  rw [text]
  refine listItems.exists_tokens (fun item member level => ?_) level
  obtain ⟨tokens, cut, builds⟩ := each item member level
  exact ⟨tokens, cut, fun frames => builds _ _, fun frames behind last => .cons rfl (builds _ _)⟩

/-- Keys that are quoted, with their values. -/
def quoteKeys (members : List (String × Json)) : List (List Char × Json) :=
  members.map fun (key, value) => (quote key, value)

/-- An object holds its members: a key, a colon and a value each. -/
def objectMembers : Container (String × Json) where
  opening := ('\x7b', .openBrace)
  closing := ('\x7d', .closeBrace)
  text level member := (inQuotes (quote member.1) ++ ": " ++ layOut level member.2).toList
  opened frames := .key frames [] true
  holding frames behind last := .done (.object (quoteKeys behind) (quote last.1) :: frames) last.2
  whole := .ofMembers
  opening_known := by decide
  closing_known := by decide
  opens _ _ := rfl
  closes_empty _ := rfl
  closes frames behind last := by simp [step, stepDone, ofMembers, quoteKeys]

/-- Members of an object as they are laid out. -/
theorem toList_layOutMembers (level : Nat) (members : List (String × Json)) :
    (layOutMembers (level + 1) (quoteKeys members) ++ newLine level ++ "\x7d").toList =
      objectMembers.tail level members := by
  induction members with
  | nil => simp [quoteKeys, layOutMembers, Container.tail, objectMembers]
  | cons member members ih =>
      rw [Container.tail, ← ih]
      simp [quoteKeys, layOutMembers, objectMembers]

theorem readsEntry_member (key : String) {value : Json} (reads : Reads value) :
    objectMembers.ReadsEntry (key, value) := by
  intro level
  obtain ⟨tokens, cut, builds⟩ := reads level
  have colon : CutsFreely ":".toList [.colon] := cuts_punctuation (by decide)
  have blank : CutsFreely " ".toList [] := cuts_spaces (List.forall_mem_singleton.mpr rfl)
  have text : objectMembers.text level (key, value) =
      (inQuotes (quote key)).toList ++ ":".toList ++ " ".toList ++ (layOut level value).toList := by
    simp [objectMembers]
  have leads (frames : List Frame) (behind : List (List Char × Json)) (closable : Bool) :
      Leads (.string (quote key) :: .colon :: tokens) (.key frames behind closable)
        (.done (.object behind (quote key) :: frames) value) :=
    .cons rfl (.cons rfl (builds _ _))
  rw [text]
  exact ⟨_, (((cuts_inQuotes key).append colon).append blank).andThen cut,
    fun frames => leads frames [] true, fun frames behind last => .cons rfl (leads _ _ _)⟩

/-- An object is read back if its members are. -/
theorem reads_object {members : List (String × Json)}
    (each : ∀ member ∈ members, Reads member.2) : Reads (.ofMembers members) := by
  intro level
  have text : (layOut level (.ofMembers members)).toList = objectMembers.laidOut level members := by
    cases members with
    | nil => simp [ofMembers, layOut, Container.laidOut, objectMembers]
    | cons member members =>
        rw [Container.laidOut, ← toList_layOutMembers]
        simp [ofMembers, quoteKeys, layOut, objectMembers]
  rw [text]
  exact objectMembers.exists_tokens (fun member listed => readsEntry_member _ (each member listed)) level

/-! ### Values -/

/-- **Every value that can be written is read back**, by induction on the value. -/
theorem reads_of_spelled {value : Json} (spelled : Spelled value) : Reads value := by
  induction spelled with
  | null =>
      intro level
      refine ⟨[.null], ?_, fun frames closable => rfl⟩
      rw [layOut]
      exact (cuts_word (by decide)).cuts
  | bool value =>
      intro level
      refine ⟨[.bool value], ?_, fun frames closable => rfl⟩
      rw [layOut]
      cases value <;> exact (cuts_word (by decide)).cuts
  | nat value =>
      intro level
      refine ⟨[.number (Nat.toDigits 10 value)], ?_, fun frames closable => rfl⟩
      rw [ofNat, layOut, String.toList_ofList]
      exact cuts_digits value
  | text value =>
      intro level
      refine ⟨[.string (quote value)], ?_, fun frames closable => rfl⟩
      rw [ofText, layOut]
      exact (cuts_inQuotes value).cuts
  | array _ ih => exact reads_array ih
  | object _ ih => exact reads_object ih

/-- **What is laid out is read back.** -/
theorem parse_pretty {value : Json} (spelled : Spelled value) : parse value.pretty = some value := by
  obtain ⟨found, cut, builds⟩ := reads_of_spelled spelled 0
  have isCut := cut [] [] nofun
  rw [List.append_nil, List.append_nil] at isCut
  have tokens : tokens value.pretty = some found := by
    rw [Json.tokens, pretty, isCut]
    simp [tokensFrom]
  have built : found.foldlM step (.value [] false) = some (.done [] value) := builds [] false
  rw [parse, tokens, Option.bind_eq_bind, Option.bind_some, built]
  rfl

end ForeignGlue.Json
