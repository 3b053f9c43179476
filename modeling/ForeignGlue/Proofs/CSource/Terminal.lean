/-
**Terminals of C source.**

C source is cut into tokens as C expressions are, string literals being tokens too. What the grammar
sees of a token is its terminal: a word may be a keyword or the name of a type.

* `terminals`: the terminals of a text, `none` if some part of it has none.
* `Closed`: characters that are cut alike whatever follows them. Chunks of source are put together
  from closed ones (`Closed.append`, `Closed.word`, `Closed.number`, `closed_literal`).
* `closed_of_settled`: a chunk is closed if nothing that follows can reach into it, which `settled?`
  decides.
-/

import ForeignGlue.Proofs.CExpression.Arithmetic
import ForeignGlue.Proofs.CExpression.Lexer
import ForeignGlue.Proofs.HostForm.Marks
import ForeignGlue.Source.CString

namespace ForeignGlue.CSource

open ForeignGlue.CExpression
open ForeignGlue.Expression (IsIdentifier nameLength)
open ForeignGlue.Text

/-! ### Terminals -/

/-- The punctuators of the statements and expressions that are read. -/
inductive Mark where
  | opening
  | closing
  | openingBracket
  | closingBracket
  | openingBrace
  | closingBrace
  | dot
  | comma
  | semicolon
  | assign
  | bang
  | star
  | slash
  | plus
  | minus
  | lessEqual
  | equal
  | unequal
  | andAnd
  | orOr
  deriving DecidableEq, Repr

/-- What the grammar sees of a token. -/
inductive Terminal where
  | number (digits : List Char)
  /-- A string literal, as it is spelled between its quotes. -/
  | text (spelled : List Char)
  /-- An identifier. -/
  | name (name : String)
  /-- The name of a type. -/
  | typeName (name : String)
  /-- The keyword of a conditional. -/
  | ifWord
  /-- The keyword of a jump. -/
  | gotoWord
  /-- The keyword of a definition that other files do not see. -/
  | staticWord
  | mark (mark : Mark)
  deriving DecidableEq, Repr

/-- The spelling of the punctuators. -/
def markTexts : List (List Char × Mark) :=
  [(['('], .opening), ([')'], .closing), (['['], .openingBracket), ([']'], .closingBracket),
   (['\x7b'], .openingBrace), (['\x7d'], .closingBrace), (['.'], .dot), ([','], .comma),
   ([';'], .semicolon), (['='], .assign), (['!'], .bang), (['*'], .star), (['/'], .slash),
   (['+'], .plus), (['-'], .minus), (['<', '='], .lessEqual), (['=', '='], .equal),
   (['!', '='], .unequal), (['&', '&'], .andAnd), (['|', '|'], .orOr)]

/-- The names of types: those of C that are used, and those that headers define. -/
def typeNames : List String :=
  ["int", "long", "char", "void", "npy_intp", "ForthonObject"]

/-- The keywords that no statement here is written with. -/
def otherKeywords : List String :=
  ["auto", "break", "case", "const", "continue", "default", "do", "double", "else", "enum",
   "extern", "float", "for", "inline", "register", "restrict", "return", "short", "signed",
   "sizeof", "struct", "switch", "typedef", "union", "unsigned", "volatile", "while", "_Bool",
   "_Complex", "_Imaginary"]

/-- The words that are no identifiers, with their terminals. -/
def reservedWords : List (List Char × Option Terminal) :=
  [("if".toList, some .ifWord), ("goto".toList, some .gotoWord),
   ("static".toList, some .staticWord)] ++
  typeNames.map (fun name => (name.toList, some (.typeName name))) ++
  otherKeywords.map fun keyword => (keyword.toList, none)

/-- The terminal of a word. -/
def wordTerminal? (word : List Char) : Option Terminal :=
  match reservedWords.lookup word with
  | some terminal => terminal
  | none => some (.name (String.ofList word))

/-- The terminal of a token. -/
def terminal? : CToken → Option Terminal
  | .number digits => some (.number digits)
  | .word word => wordTerminal? word
  | .punctuator text => (markTexts.lookup text).map .mark

/-! ### Cutting -/

/-- The length of a string literal after its opening quote, its end included. It ends on its line. -/
def literalRest? : List Char → Option Nat
  | [] => none
  | '"' :: _ => some 1
  | '\n' :: _ => none
  | '\\' :: '\n' :: _ => none
  | '\\' :: _ :: cs => (literalRest? cs).map (· + 2)
  | _ :: cs => (literalRest? cs).map (· + 1)

/-- The first piece of a text: its terminal, which white space and comments have not, and its
length. -/
def piece? (cs : List Char) : Option (Option Terminal × Nat) :=
  if cs.head? = some '"' then
    (literalRest? cs.tail).map fun rest => (some (.text (cs.tail.take (rest - 1))), rest + 1)
  else
    (firstPiece? cs).bind fun piece =>
      match piece.1 with
      | none => some (none, piece.2)
      | some token => (terminal? token).map fun terminal => (some terminal, piece.2)

/-- The terminals of the characters after the first `skip`, which belong to the piece before them. -/
def terminalsFrom : Nat → List Char → Option (List Terminal)
  | _, [] => some []
  | skip + 1, _ :: cs => terminalsFrom skip cs
  | 0, c :: cs =>
    match piece? (c :: cs) with
    | none => none
    | some (terminal, length) => (terminalsFrom (length - 1) cs).map (terminal.toList ++ ·)

/-- The terminals of a text. -/
def terminals (text : List Char) : Option (List Terminal) :=
  terminalsFrom 0 text

theorem terminalsFrom_eq_drop (skip : Nat) (cs : List Char) :
    terminalsFrom skip cs = terminals (cs.drop skip) :=
  Text.scan_eq_drop (fun _ => by rw [terminalsFrom, terminalsFrom])
    (fun _ _ _ => by rw [terminalsFrom]) skip cs

/-- **The first piece of a text**, and the terminals of what follows it. -/
theorem terminals_append {piece rest : List Char} {terminal : Option Terminal} (written : piece ≠ [])
    (first : piece? (piece ++ rest) = some (terminal, piece.length)) :
    terminals (piece ++ rest) = (terminals rest).map (terminal.toList ++ ·) := by
  obtain ⟨c, cs, rfl⟩ := List.exists_cons_of_ne_nil written
  rw [List.cons_append] at first
  rw [List.cons_append, terminals, terminalsFrom, first]
  simp [terminalsFrom_eq_drop]

/-! ### Closed chunks -/

/-- **Characters that are cut alike whatever follows them.** -/
def Closed (chars : List Char) (ts : List Terminal) : Prop :=
  ∀ rest, terminals (chars ++ rest) = (terminals rest).map (ts ++ ·)

namespace Closed

variable {cs ds : List Char} {ts us : List Terminal}

theorem nil : Closed [] [] := by
  intro rest
  cases h : terminals rest <;> simp [h]

/-- Closed chunks, one after the other. -/
theorem append (first : Closed cs ts) (second : Closed ds us) : Closed (cs ++ ds) (ts ++ us) := by
  intro rest
  rw [List.append_assoc, first, second, Option.map_map]
  congr 1
  funext vs
  exact (List.append_assoc ts us vs).symm

/-- The terminals of a closed text are its own. -/
theorem terminals_eq (closed : Closed cs ts) : terminals cs = some ts := by
  have whole := closed []
  rw [List.append_nil] at whole
  rw [whole]
  exact congrArg some (List.append_nil ts)

end Closed

/-! ### Chunks that nothing reaches into -/

/-- The punctuators that are never part of longer ones. -/
def delimiters : List Char :=
  ['(', ')', '[', ']', '\x7b', '\x7d', ';', ',']

/-- Whether the first piece is the same whatever follows: it ends inside the characters, no longer
punctuator goes on after them, and it is no literal and no comment; or it is one character that
nothing is added to. -/
def isSettled (cs : List Char) : Bool :=
  cs.head?.any (fun c => isCSpace c || delimiters.contains c) ||
    (1 < cs.length && cs.head? != some '"' && !(['/', '*'].isPrefixOf cs) &&
      !(['/', '/'].isPrefixOf cs) &&
      (punctuators.all fun text => text.length ≤ cs.length || !cs.isPrefixOf text) &&
      (firstPiece? cs).any fun piece => piece.2 < cs.length)

/-- The terminals of the characters after the first `skip`, if each of their pieces is settled. -/
def settledFrom : Nat → List Char → Option (List Terminal)
  | 0, [] => some []
  | _ + 1, [] => none
  | skip + 1, _ :: cs => settledFrom skip cs
  | 0, c :: cs =>
    if isSettled (c :: cs) then
      match piece? (c :: cs) with
      | none => none
      | some (terminal, length) => (settledFrom (length - 1) cs).map (terminal.toList ++ ·)
    else none

theorem firstPiece?_delimiter {c : Char} (member : c ∈ delimiters) (rest : List Char) :
    firstPiece? (c :: rest) = some (some (.punctuator [c]), 1) := by
  have known : ∀ c ∈ delimiters, [c] ∈ punctuators ∧ isCSpace c = false ∧ c.isDigit = false ∧
      isNameStart c = false ∧ extenders c = [] ∧ c ≠ '/' ∧ c ≠ '.' := forall_mem_of_all (by decide)
  obtain ⟨listed, notSpace, notDigit, notName, single, notSlash, notPoint⟩ := known c member
  have found : punctuator? (c :: rest) = some [c] :=
    punctuator?_eq_single listed (by simp [single])
  simp [firstPiece?, notSpace, List.isPrefixOf, Ne.symm notSlash, numberReach, notDigit, notPoint,
    nameLength, notName, found]

theorem numberRest_append_of_lt {marked : Bool} {cs : List Char}
    (inside : numberRest marked cs < cs.length) (rest : List Char) :
    numberRest marked (cs ++ rest) = numberRest marked cs := by
  induction cs generalizing marked with
  | nil => cases inside
  | cons c cs ih =>
      rw [List.cons_append, numberRest, numberRest]
      rw [numberRest] at inside
      by_cases nameChar : (isNameChar c || c == '.') = true
      · rw [if_pos nameChar] at inside ⊢
        rw [if_pos nameChar, ih (by simpa using inside)]
      · rw [if_neg nameChar] at inside ⊢
        rw [if_neg nameChar]
        by_cases sign : (marked && (c == '+' || c == '-')) = true
        · rw [if_pos sign] at inside ⊢
          rw [if_pos sign, ih (by simpa using inside)]
        · rw [if_neg sign, if_neg sign]

theorem takeWhile_append_of_lt {p : Char → Bool} {cs : List Char}
    (inside : (cs.takeWhile p).length < cs.length) (rest : List Char) :
    (cs ++ rest).takeWhile p = cs.takeWhile p := by
  induction cs with
  | nil => cases inside
  | cons c cs ih =>
      rw [List.cons_append, List.takeWhile_cons, List.takeWhile_cons]
      rw [List.takeWhile_cons] at inside
      by_cases holds : p c = true
      · rw [if_pos holds] at inside ⊢
        rw [if_pos holds, ih (by simpa using inside)]
      · rw [if_neg holds, if_neg holds]

theorem punctuator?_append {cs : List Char}
    (bounded : ∀ text ∈ punctuators, text.length ≤ cs.length ∨ ¬cs <+: text) (rest : List Char) :
    punctuator? (cs ++ rest) = punctuator? cs := by
  unfold punctuator?
  rw [← List.head?_filter, ← List.head?_filter]
  congr 1
  refine List.filter_congr fun text member => ?_
  rw [Bool.eq_iff_iff, List.isPrefixOf_iff_prefix, List.isPrefixOf_iff_prefix]
  constructor
  · intro starts
    rcases bounded text member with short | other
    · exact List.prefix_of_prefix_length_le starts (List.prefix_append cs rest) short
    · rcases List.prefix_or_prefix_of_prefix starts (List.prefix_append cs rest) with inside | reaches
      · exact inside
      · exact absurd reaches other
  · intro starts
    exact starts.trans (List.prefix_append cs rest)

/-- A number that ends inside a text ends there, whatever follows. -/
theorem numberReach_append {c d : Char} {cs : List Char}
    (inside : numberReach (c :: d :: cs) < (c :: d :: cs).length) (rest : List Char) :
    numberReach (c :: d :: cs ++ rest) = numberReach (c :: d :: cs) := by
  rw [numberReach] at inside
  rw [List.cons_append, List.cons_append, numberReach, numberReach, List.head?_cons, List.head?_cons]
  rw [List.head?_cons] at inside
  by_cases starts : (c.isDigit || (c == '.' && (some d).any Char.isDigit)) = true
  · rw [if_pos starts] at inside
    rw [if_pos starts, if_pos starts, ← List.cons_append,
      numberRest_append_of_lt (by simpa using inside)]
  · rw [if_neg starts, if_neg starts]

/-- A name that ends inside a text ends there, whatever follows. -/
theorem nameLength_append {c : Char} {cs : List Char}
    (inside : nameLength (c :: cs) < (c :: cs).length) (rest : List Char) :
    nameLength (c :: cs ++ rest) = nameLength (c :: cs) := by
  rw [nameLength] at inside
  rw [List.cons_append, nameLength, nameLength]
  by_cases start : isNameStart c = true
  · rw [if_pos start] at inside
    rw [if_pos start, if_pos start, takeWhile_append_of_lt (by simpa using inside)]
  · rw [if_neg start, if_neg start]

/-- **A settled piece** is the first one whatever follows. -/
theorem firstPiece?_append {cs : List Char} (settled : isSettled cs = true) (rest : List Char) :
    firstPiece? (cs ++ rest) = firstPiece? cs := by
  rw [isSettled, Bool.or_eq_true] at settled
  rcases settled with single | long
  · obtain ⟨c, first, ends⟩ := (Option.any_eq_true _ _).mp single
    obtain ⟨cs, rfl⟩ := List.head?_eq_some_iff.mp first
    rcases Bool.or_eq_true_iff.mp ends with space | delimiter
    · simp [firstPiece?, space]
    · have member : c ∈ delimiters := by simpa using delimiter
      rw [List.cons_append, firstPiece?_delimiter member, firstPiece?_delimiter member]
  · simp only [Bool.and_eq_true, decide_eq_true_eq, Bool.not_eq_true', List.all_eq_true,
      Bool.or_eq_true] at long
    obtain ⟨⟨⟨⟨⟨size, -⟩, notComment⟩, notLine⟩, bounded⟩, inside⟩ := long
    obtain ⟨c, d, cs, rfl⟩ : ∃ c d more, cs = c :: d :: more := by
      rcases cs with _ | ⟨c, _ | ⟨d, more⟩⟩
      · cases size
      · cases Nat.lt_irrefl _ size
      · exact ⟨c, d, more, rfl⟩
    have punctuated : punctuator? (c :: d :: cs ++ rest) = punctuator? (c :: d :: cs) := by
      refine punctuator?_append (fun text member => (bounded text member).imp_right ?_) rest
      intro apart starts
      rw [List.isPrefixOf_iff_prefix.mpr starts] at apart
      cases apart
    have noComment : ['/', '*'].isPrefixOf (c :: d :: cs ++ rest) = false := notComment
    have noLine : ['/', '/'].isPrefixOf (c :: d :: cs ++ rest) = false := notLine
    have sameHead : (c :: d :: cs ++ rest).head? = (c :: d :: cs).head? := rfl
    unfold firstPiece? at inside ⊢
    rw [noComment, noLine, sameHead, punctuated]
    rw [notComment, notLine] at inside
    rw [notComment, notLine]
    by_cases space : ((c :: d :: cs).head?.any isCSpace) = true
    · rw [if_pos space, if_pos space]
    · rw [if_neg space, if_neg Bool.false_ne_true, if_neg Bool.false_ne_true] at inside ⊢
      rw [if_neg space, if_neg Bool.false_ne_true, if_neg Bool.false_ne_true]
      by_cases number : numberReach (c :: d :: cs) ≠ 0
      · rw [if_pos number] at inside
        have short : numberReach (c :: d :: cs) < (c :: d :: cs).length := by simpa using inside
        rw [numberReach_append short, if_pos number, if_pos number,
          List.take_append_of_le_length (Nat.le_of_lt short)]
      · have none : numberReach (c :: d :: cs) = 0 := by simpa using number
        have short : numberReach (c :: d :: cs) < (c :: d :: cs).length := by
          rw [none]
          exact Nat.zero_lt_succ _
        rw [if_neg number] at inside
        rw [numberReach_append short, if_neg number, if_neg number]
        by_cases named : nameLength (c :: d :: cs) ≠ 0
        · rw [if_pos named] at inside
          have short : nameLength (c :: d :: cs) < (c :: d :: cs).length := by simpa using inside
          rw [nameLength_append short, if_pos named, if_pos named,
            List.take_append_of_le_length (Nat.le_of_lt short)]
        · have noName : nameLength (c :: d :: cs) = 0 := by simpa using named
          have short : nameLength (c :: d :: cs) < (c :: d :: cs).length := by
            rw [noName]
            exact Nat.zero_lt_succ _
          rw [nameLength_append short, if_neg named, if_neg named]

/-- The first piece of a settled text, whatever follows. -/
theorem piece?_append {cs : List Char} (settled : isSettled cs = true) (rest : List Char) :
    piece? (cs ++ rest) = piece? cs := by
  have noQuote : cs.head? ≠ some '"' := by
    intro quote
    rw [isSettled, quote] at settled
    exact absurd settled (by simp [isCSpace, delimiters])
  have noQuoteToo : (cs ++ rest).head? ≠ some '"' := by
    cases cs with
    | nil => exact absurd settled (by decide)
    | cons c cs => exact noQuote
  rw [piece?, piece?, if_neg noQuote, if_neg noQuoteToo, firstPiece?_append settled]

/-- **A text that is settled everywhere** is cut by itself. -/
theorem terminalsFrom_of_settledFrom {skip : Nat} {cs : List Char} {ts : List Terminal}
    (settled : settledFrom skip cs = some ts) (rest : List Char) :
    terminalsFrom skip (cs ++ rest) = (terminals rest).map (ts ++ ·) := by
  induction cs generalizing skip ts with
  | nil =>
      cases skip with
      | zero =>
          cases settled
          exact Closed.nil rest
      | succ skip => cases settled
  | cons c cs ih =>
      cases skip with
      | succ skip => exact ih settled
      | zero =>
          rw [settledFrom] at settled
          by_cases here : isSettled (c :: cs) = true
          · rw [if_pos here] at settled
            have same := piece?_append here rest
            rw [List.cons_append] at same ⊢
            rw [terminalsFrom, same]
            cases found : piece? (c :: cs) with
            | none => rw [found] at settled; cases settled
            | some piece =>
                obtain ⟨terminal, length⟩ := piece
                rw [found] at settled
                obtain ⟨us, later, rfl⟩ := Option.map_eq_some_iff.mp settled
                dsimp only
                rw [ih later, Option.map_map]
                congr 1
                funext vs
                exact (List.append_assoc _ us vs).symm
          · rw [if_neg here] at settled
            cases settled

/-- **A chunk that nothing reaches into is closed.** -/
theorem closed_of_settled {cs : List Char} {ts : List Terminal} (settled : settledFrom 0 cs = some ts) :
    Closed (String.ofList cs).toList ts := by
  rw [String.toList_ofList]
  exact terminalsFrom_of_settledFrom settled

example : settledFrom 0 ".dimensions[".toList =
    some [.mark .dot, .name "dimensions", .mark .openingBracket] := by
  decide

/-! ### Words, numbers and literals -/

theorem firstPiece?_quote (cs : List Char) : firstPiece? ('"' :: cs) = none := by
  have noText : punctuator? ('"' :: cs) = none := by
    rw [punctuator?, List.find?_eq_none]
    have known : ∀ text ∈ punctuators, text ≠ [] ∧ text.head? ≠ some '"' :=
      forall_mem_of_all (by decide)
    intro text member starts
    obtain ⟨written, other⟩ := known text member
    obtain ⟨c, more, rfl⟩ := List.exists_cons_of_ne_nil written
    rw [List.isPrefixOf_iff_prefix, List.cons_prefix_cons] at starts
    exact other (by rw [starts.1]; rfl)
  simp [firstPiece?, isCSpace, List.isPrefixOf, numberReach, nameLength, isNameStart, noText]

/-- A token that has a terminal, as the first piece. -/
theorem piece?_of_firstPiece? {cs : List Char} {token : CToken} {length : Nat} {terminal : Terminal}
    (first : firstPiece? cs = some (some token, length)) (known : terminal? token = some terminal) :
    piece? cs = some (some terminal, length) := by
  have noQuote : cs.head? ≠ some '"' := by
    intro quote
    obtain ⟨more, rfl⟩ := List.head?_eq_some_iff.mp quote
    rw [firstPiece?_quote] at first
    cases first
  rw [piece?, if_neg noQuote, first, Option.bind_some]
  dsimp only
  rw [known]
  rfl

/-- A word that is not reserved. -/
def IsFree (word : List Char) : Prop :=
  IsIdentifier word ∧ reservedWords.lookup word = none

/-- A word is cut where its characters end. -/
theorem terminals_word {word rest : List Char} (free : IsFree word)
    (stops : ∀ d ∈ rest.head?, isNameChar d = false) :
    terminals (word ++ rest) = (terminals rest).map (.name (String.ofList word) :: ·) := by
  obtain ⟨⟨c, cs, rfl, start, inside⟩, notReserved⟩ := free
  have known : terminal? (.word (c :: cs)) = some (.name (String.ofList (c :: cs))) := by
    rw [terminal?, wordTerminal?, notReserved]
  exact terminals_append (List.cons_ne_nil c cs)
    (piece?_of_firstPiece? (firstPiece?_word start inside stops) known)

/-- A number is cut where its digits end. -/
theorem terminals_number {digits rest : List Char} (written : digits ≠ [])
    (decimal : digits.all Char.isDigit)
    (stops : ∀ c ∈ rest.head?, isNameChar c = false ∧ c ≠ '.') :
    terminals (digits ++ rest) = (terminals rest).map (.number digits :: ·) :=
  terminals_append written (piece?_of_firstPiece? (firstPiece?_number written decimal stops) rfl)

theorem forall_head?_append {stops : Char → Bool} {cs : List Char} (first : cs.head?.any stops)
    (rest : List Char) : ∀ c ∈ (cs ++ rest).head?, stops c = true := by
  cases cs with
  | nil => cases first
  | cons d ds => simpa using first

/-- An identifier, with a closed chunk after it. -/
theorem Closed.word {name : String} {cs : List Char} {us : List Terminal} (closed : Closed cs us)
    (free : IsFree name.toList) (stops : cs.head?.any fun d => !isNameChar d) :
    Closed (name.toList ++ cs) (.name name :: us) := by
  intro rest
  have other := forall_head?_append stops rest
  rw [List.append_assoc, terminals_word free (by simpa using other), closed, Option.map_map,
    String.ofList_toList]
  rfl

/-- A decimal number, with a closed chunk after it. -/
theorem Closed.number {cs : List Char} {us : List Terminal} (closed : Closed cs us) (value : Nat)
    (stops : cs.head?.any fun d => !isNameChar d && d != '.') :
    Closed (Nat.toDigits 10 value ++ cs) (.number (Nat.toDigits 10 value) :: us) := by
  intro rest
  have other := forall_head?_append stops rest
  rw [List.append_assoc, terminals_number Nat.toDigits_ne_nil (all_isDigit_toDigits value)
    (by simpa using other), closed, Option.map_map]
  rfl

/-- Characters that a string literal may have between its quotes. -/
def isLiteralBody : List Char → Bool
  | [] => true
  | '"' :: _ => false
  | '\n' :: _ => false
  | ['\\'] => false
  | '\\' :: '\n' :: _ => false
  | '\\' :: _ :: cs => isLiteralBody cs
  | _ :: cs => isLiteralBody cs

/-- Such characters are escapes and characters that stand for themselves. -/
@[elab_as_elim]
theorem isLiteralBody_induction {motive : List Char → Prop} (empty : motive [])
    (escape : ∀ c cs, c ≠ '\n' → motive cs → motive ('\\' :: c :: cs))
    (plain : ∀ c cs, c ≠ '"' → c ≠ '\n' → c ≠ '\\' → motive cs → motive (c :: cs))
    {spelled : List Char} (inside : isLiteralBody spelled = true) : motive spelled := by
  fun_induction isLiteralBody spelled with
  | case1 => exact empty
  | case2 => cases inside
  | case3 => cases inside
  | case4 => cases inside
  | case5 => cases inside
  | case6 c cs notNewLine ih => exact escape c cs notNewLine (ih inside)
  | case7 c cs notQuote notEnd notAlone notSpliced notEscape ih =>
      have notBackslash : c ≠ '\\' := by
        intro backslash
        cases cs with
        | nil => exact notAlone backslash rfl
        | cons d cs => exact notEscape d cs backslash rfl
      exact plain c cs notQuote notEnd notBackslash (ih inside)

/-- A literal ends at the first quote that is not escaped. -/
theorem literalRest?_of_isLiteralBody {spelled : List Char} (inside : isLiteralBody spelled = true)
    (rest : List Char) : literalRest? (spelled ++ '"' :: rest) = some (spelled.length + 1) := by
  refine isLiteralBody_induction rfl (fun c cs notNewLine ih => ?_)
    (fun c cs notQuote notEnd notBackslash ih => ?_) inside
  · rw [List.cons_append, List.cons_append, literalRest?, ih]
    · rfl
    · exact notNewLine
  · rw [List.cons_append, literalRest?, ih]
    · rfl
    all_goals simp_all

/-- **A string literal** is closed by its quotes. -/
theorem closed_literal {spelled : List Char} (inside : isLiteralBody spelled = true) :
    Closed ('"' :: (spelled ++ ['"'])) [.text spelled] := by
  intro rest
  have length := literalRest?_of_isLiteralBody inside rest
  have first : piece? ('"' :: (spelled ++ ['"']) ++ rest) =
      some (some (.text spelled), ('"' :: (spelled ++ ['"'])).length) := by
    rw [List.cons_append, List.append_assoc, List.singleton_append, piece?, List.head?_cons, if_pos rfl,
      List.tail_cons, length]
    simp
  exact terminals_append (List.cons_ne_nil _ _) first

theorem isLiteralBody_cons {c : Char} (notQuote : c ≠ '"') (notEnd : c ≠ '\n')
    (notBackslash : c ≠ '\\') (cs : List Char) : isLiteralBody (c :: cs) = isLiteralBody cs := by
  rw [isLiteralBody]
  all_goals simp_all

theorem isLiteralBody_append {cs ds : List Char} (first : isLiteralBody cs = true)
    (second : isLiteralBody ds = true) : isLiteralBody (cs ++ ds) = true := by
  refine isLiteralBody_induction second (fun c cs notNewLine ih => ?_)
    (fun c cs notQuote notEnd notBackslash ih => ?_) first
  · rw [List.cons_append, List.cons_append, isLiteralBody]
    · exact ih
    · exact notNewLine
  · rw [List.cons_append, isLiteralBody_cons notQuote notEnd notBackslash]
    exact ih

theorem isLiteralBody_singleton {c : Char} (notQuote : c ≠ '"') (notEnd : c ≠ '\n')
    (notBackslash : c ≠ '\\') : isLiteralBody [c] = true :=
  isLiteralBody_cons notQuote notEnd notBackslash []

/-- The spelling of a character in a literal. -/
theorem isLiteralBody_escapeChar (c : Char) : isLiteralBody (Source.escapeChar c) = true := by
  unfold Source.escapeChar
  by_cases backslash : (c == '\\') = true
  · rw [if_pos backslash]
    rfl
  rw [if_neg backslash]
  by_cases quote : (c == '"') = true
  · rw [if_pos quote]
    rfl
  rw [if_neg quote]
  by_cases newLine : (c == '\n') = true
  · rw [if_pos newLine]
    rfl
  rw [if_neg newLine]
  by_cases tab : (c == '\t') = true
  · rw [if_pos tab]
    rfl
  rw [if_neg tab]
  by_cases carriage : (c == '\r') = true
  · rw [if_pos carriage]
    rfl
  rw [if_neg carriage]
  by_cases control : isControl c = true
  · rw [if_pos control]
    have range := (isControl_iff c).mp control
    have digits : ∀ high < 16, ∀ low < 16,
        isLiteralBody ['\\', 'x', Source.hexDigit high, Source.hexDigit low] = true := by
      decide +kernel
    exact digits _ (by omega) _ (by omega)
  · rw [if_neg control]
    refine isLiteralBody_singleton ?_ ?_ ?_
    · simpa using quote
    · simpa using newLine
    · simpa using backslash

/-- An escaped text does not end the literal it stands in. -/
theorem isLiteralBody_escape (text : String) : isLiteralBody (Source.escape text).toList = true := by
  rw [Source.escape, String.toList_ofList]
  induction text.toList with
  | nil => rfl
  | cons c cs ih =>
      rw [List.flatMap_cons]
      exact isLiteralBody_append (isLiteralBody_escapeChar c) ih

/-- **A quoted text** is a literal that spells its escaped characters. -/
theorem closed_quoted (text : String) :
    Closed (Source.quoted text).toList [.text (Source.escape text).toList] := by
  have spelled : (Source.quoted text).toList =
      '"' :: ((Source.escape text).toList ++ ['"']) := by
    simp [Source.quoted]
  rw [spelled]
  exact closed_literal (isLiteralBody_escape text)

end ForeignGlue.CSource
