/-
**Integer expressions of C.**

The tokens of a C expression over table slots are numbers, the arithmetic punctuators, and the tokens
of slot references, `* ( long * ) table [ index ] . data`, each of which stands for one operand. What
they mean is said by the productions of additive, multiplicative and unary expressions.

* `terminals`: the tokens with every slot reference taken as one.
* `Derives`: the productions. `Evaluates` is the value of a text read by them.
* `derives_wellJoined`: in an expression every terminal may stand after the one before it: an operand is
  followed by a binary operator or a closing parenthesis, anything else by the start of an operand.
* `terminals_tokens`: the tokens of a list of terminals, read back.

Operators with side effects are left out: an expression that changes a slot has no value over slots
that are given.
-/

import ForeignGlue.Proofs.CExpression.Arithmetic
import ForeignGlue.Proofs.CExpression.Lexer
import Mathlib.Data.List.Chain

namespace ForeignGlue.CExpression

open ForeignGlue.Text

/-! ### Terminals -/

/-- What the productions are about. -/
inductive Terminal where
  | literal (digits : List Char)
  /-- A reference to a slot of a table. -/
  | slot (table : String) (index : Nat)
  | symbol (c : Char)
  deriving DecidableEq, Repr

/-- The punctuators of an arithmetic expression. -/
def arithmeticSymbols : List Char :=
  ['+', '-', '*', '/', '(', ')']

/-- The tokens of a slot reference. -/
def slotTokens (table index : List Char) : List CToken :=
  [.punctuator ['*'], .punctuator ['('], .word ['l', 'o', 'n', 'g'], .punctuator ['*'],
   .punctuator [')'], .word table, .punctuator ['['], .number index, .punctuator [']'],
   .punctuator ['.'], .word ['d', 'a', 't', 'a']]

/-- The slot that is referred to at the start. Its index is a decimal constant. -/
def slot? (tokens : List CToken) : Option (String × Nat) :=
  match (tokens[5]? : Option CToken), (tokens[7]? : Option CToken) with
  | some (.word table), some (.number index) =>
    if tokens.take 11 = slotTokens table index ∧ index.all Char.isDigit ∧ isPlainLiteral index then
      some (String.ofList table, Nat.ofDigitChars 10 index 0)
    else none
  | _, _ => none

/-- The terminal of a token that is not part of a slot reference. -/
def terminal? : CToken → Option Terminal
  | .number digits => some (.literal digits)
  | .punctuator [c] => if c ∈ arithmeticSymbols then some (.symbol c) else none
  | _ => none

/-- The terminals of the tokens after the first `skip`, which belong to the terminal before them. -/
def terminalsFrom : Nat → List CToken → Option (List Terminal)
  | _, [] => some []
  | skip + 1, _ :: tokens => terminalsFrom skip tokens
  | 0, token :: tokens =>
    match slot? (token :: tokens) with
    | some (table, index) => (terminalsFrom 10 tokens).map (.slot table index :: ·)
    | none => (terminal? token).bind fun first => (terminalsFrom 0 tokens).map (first :: ·)

/-- The terminals of a list of tokens. -/
def terminals (tokens : List CToken) : Option (List Terminal) :=
  terminalsFrom 0 tokens

/-! ### Productions -/

/-- What is derived. -/
inductive Level where
  | unary
  | multiplicative
  | additive
  deriving DecidableEq, Repr

/-- **The productions** of integer expressions, and what each of them means. -/
inductive Derives : Level → List Terminal → CExpr → Prop
  | literal (digits : List Char) : Derives .unary [.literal digits] (.literal digits)
  | slot (table : String) (index : Nat) : Derives .unary [.slot table index] (.slot table index)
  | parenthesized {ts : List Terminal} {x : CExpr} (inner : Derives .additive ts x) :
      Derives .unary (.symbol '(' :: (ts ++ [.symbol ')'])) x
  | negated {ts : List Terminal} {x : CExpr} (operand : Derives .unary ts x) :
      Derives .unary (.symbol '-' :: ts) (.negated x)
  /-- A leading `+` promotes its operand, which changes no `int` and no `long`. -/
  | promoted {ts : List Terminal} {x : CExpr} (operand : Derives .unary ts x) :
      Derives .unary (.symbol '+' :: ts) x
  | single {ts : List Terminal} {x : CExpr} (operand : Derives .unary ts x) :
      Derives .multiplicative ts x
  | multiplied {ts us : List Terminal} {x y : CExpr} (left : Derives .multiplicative ts x)
      (right : Derives .unary us y) :
      Derives .multiplicative (ts ++ .symbol '*' :: us) (.binary .mul x y)
  | divided {ts us : List Terminal} {x y : CExpr} (left : Derives .multiplicative ts x)
      (right : Derives .unary us y) :
      Derives .multiplicative (ts ++ .symbol '/' :: us) (.binary .div x y)
  | product {ts : List Terminal} {x : CExpr} (operand : Derives .multiplicative ts x) :
      Derives .additive ts x
  | added {ts us : List Terminal} {x y : CExpr} (left : Derives .additive ts x)
      (right : Derives .multiplicative us y) :
      Derives .additive (ts ++ .symbol '+' :: us) (.binary .add x y)
  | subtracted {ts us : List Terminal} {x y : CExpr} (left : Derives .additive ts x)
      (right : Derives .multiplicative us y) :
      Derives .additive (ts ++ .symbol '-' :: us) (.binary .sub x y)

/-- A text is an integer expression of C that has a value, the slots being given. -/
def Evaluates (slots : String → Nat → Int64) (text : String) (value : Int) : Prop :=
  ∃ tokens ts x type, lex text.toList = some tokens ∧ terminals tokens = some ts ∧
    Derives .additive ts x ∧ x.value slots = some ⟨type, value⟩

/-! ### What may follow what -/

namespace Terminal

/-- Whether an operand may start here. -/
def startsOperand : Terminal → Bool
  | .literal _ | .slot _ _ => true
  | .symbol c => c == '(' || c == '+' || c == '-'

/-- Whether an operand may end here. -/
def endsOperand : Terminal → Bool
  | .literal _ | .slot _ _ => true
  | .symbol c => c == ')'

/-- Whether a terminal may stand after an operand. -/
def follows : Terminal → Bool
  | .literal _ | .slot _ _ => false
  | .symbol c => c == '+' || c == '-' || c == '*' || c == '/' || c == ')'

/-- Whether one terminal may stand directly after another. -/
def mayPrecede (first second : Terminal) : Bool :=
  if first.endsOperand then second.follows else second.startsOperand

/-- Whether a terminal is an operand or an arithmetic punctuator. -/
def isArithmetic : Terminal → Bool
  | .literal _ | .slot _ _ => true
  | .symbol c => arithmeticSymbols.contains c

/-- The digits of a constant. -/
def literal? : Terminal → Option (List Char)
  | .literal digits => some digits
  | _ => none

end Terminal

/-- Terminals that make up operands and operators in turn. -/
structure WellJoined (ts : List Terminal) : Prop where
  starts : ∃ first ∈ ts.head?, first.startsOperand
  ends : ∃ last ∈ ts.getLast?, last.endsOperand
  chain : ts.IsChain fun first second => first.mayPrecede second
  arithmetic : ∀ terminal ∈ ts, terminal.isArithmetic

namespace WellJoined

theorem singleton {operand : Terminal} (starts : operand.startsOperand)
    (ends : operand.endsOperand) (arithmetic : operand.isArithmetic) : WellJoined [operand] where
  starts := ⟨operand, rfl, starts⟩
  ends := ⟨operand, rfl, ends⟩
  chain := List.isChain_singleton operand
  arithmetic := by simpa using arithmetic

/-- A sign, or an opening parenthesis, in front of an operand. -/
theorem cons {ts : List Terminal} {opening : Terminal} (joined : WellJoined ts)
    (starts : opening.startsOperand) (opens : opening.endsOperand = false)
    (arithmetic : opening.isArithmetic) : WellJoined (opening :: ts) where
  starts := ⟨opening, rfl, starts⟩
  ends := by
    obtain ⟨last, member, ends⟩ := joined.ends
    exact ⟨last, List.mem_getLast?_cons member, ends⟩
  chain := by
    obtain ⟨first, member, starts⟩ := joined.starts
    refine List.isChain_cons.mpr ⟨fun next head => ?_, joined.chain⟩
    obtain rfl := Option.mem_unique member head
    simp [Terminal.mayPrecede, opens, starts]
  arithmetic := by
    simpa [arithmetic] using joined.arithmetic

/-- A closing parenthesis after an operand. -/
theorem closed {ts : List Terminal} (joined : WellJoined ts) :
    WellJoined (ts ++ [.symbol ')']) where
  starts := by
    obtain ⟨first, member, starts⟩ := joined.starts
    exact ⟨first, by simp [List.head?_append, Option.mem_def.mp member], starts⟩
  ends := ⟨.symbol ')', by simp, rfl⟩
  chain := by
    obtain ⟨last, member, ends⟩ := joined.ends
    refine List.isChain_append.mpr ⟨joined.chain, List.isChain_singleton _, ?_⟩
    intro first isLast second isClosing
    obtain rfl := Option.mem_unique member isLast
    obtain rfl := Option.some.inj isClosing
    simp [Terminal.mayPrecede, ends, Terminal.follows]
  arithmetic := by
    intro terminal member
    rcases List.mem_append.mp member with member | member
    · exact joined.arithmetic terminal member
    · rw [List.mem_singleton.mp member]
      decide

/-- Two operands and an operator between them. -/
theorem binary {ts us : List Terminal} {operator : Char} (left : WellJoined ts)
    (right : WellJoined us) (infixed : operator ∈ ['+', '-', '*', '/']) :
    WellJoined (ts ++ .symbol operator :: us) where
  starts := by
    obtain ⟨first, member, starts⟩ := left.starts
    exact ⟨first, by simp [List.head?_append, Option.mem_def.mp member], starts⟩
  ends := by
    obtain ⟨last, member, ends⟩ := right.ends
    have last_us : (Terminal.symbol operator :: us).getLast? = some last :=
      List.mem_getLast?_cons member
    exact ⟨last, by simp [List.getLast?_append, last_us], ends⟩
  chain := by
    have known : ∀ c ∈ ['+', '-', '*', '/'], (Terminal.symbol c).follows ∧
        (Terminal.symbol c).endsOperand = false := forall_mem_of_all (by decide)
    obtain ⟨follows, opens⟩ := known operator infixed
    obtain ⟨last, isLast, ends⟩ := left.ends
    obtain ⟨first, isFirst, starts⟩ := right.starts
    refine List.isChain_append.mpr ⟨left.chain, List.isChain_cons.mpr ⟨?_, right.chain⟩, ?_⟩
    · intro next isNext
      obtain rfl := Option.mem_unique isFirst isNext
      simp [Terminal.mayPrecede, opens, starts]
    · intro before isBefore after isAfter
      obtain rfl := Option.mem_unique isLast isBefore
      obtain rfl := Option.some.inj isAfter
      simp [Terminal.mayPrecede, ends, follows]
  arithmetic := by
    have known : ∀ c ∈ ['+', '-', '*', '/'], (Terminal.symbol c).isArithmetic :=
      forall_mem_of_all (by decide)
    intro terminal member
    rcases List.mem_append.mp member with member | member
    · exact left.arithmetic terminal member
    · rcases List.mem_cons.mp member with rfl | member
      · exact known operator infixed
      · exact right.arithmetic terminal member

end WellJoined

/-- **The terminals of an expression are well joined.** -/
theorem derives_wellJoined {level : Level} {ts : List Terminal} {x : CExpr}
    (derived : Derives level ts x) : WellJoined ts := by
  induction derived with
  | literal digits => exact .singleton rfl rfl rfl
  | slot table index => exact .singleton rfl rfl rfl
  | parenthesized _ ih => exact ih.closed.cons rfl rfl rfl
  | negated _ ih => exact ih.cons rfl rfl rfl
  | promoted _ ih => exact ih.cons rfl rfl rfl
  | single _ ih => exact ih
  | multiplied _ _ left right => exact left.binary right (by decide)
  | divided _ _ left right => exact left.binary right (by decide)
  | product _ ih => exact ih
  | added _ _ left right => exact left.binary right (by decide)
  | subtracted _ _ left right => exact left.binary right (by decide)

theorem filterMap_literal?_symbol (c : Char) (ts : List Terminal) :
    (Terminal.symbol c :: ts).filterMap Terminal.literal? = ts.filterMap Terminal.literal? :=
  List.filterMap_cons_none rfl

/-- The constants of an expression are those of its terminals. -/
theorem derives_literals {level : Level} {ts : List Terminal} {x : CExpr}
    (derived : Derives level ts x) : x.literals = ts.filterMap Terminal.literal? := by
  induction derived with
  | literal digits => rfl
  | slot table index => rfl
  | parenthesized _ ih => simp [ih, filterMap_literal?_symbol]
  | negated _ ih => simp [CExpr.literals, ih, filterMap_literal?_symbol]
  | promoted _ ih => simp [ih, filterMap_literal?_symbol]
  | single _ ih => exact ih
  | multiplied _ _ left right => simp [CExpr.literals, left, right, filterMap_literal?_symbol]
  | divided _ _ left right => simp [CExpr.literals, left, right, filterMap_literal?_symbol]
  | product _ ih => exact ih
  | added _ _ left right => simp [CExpr.literals, left, right, filterMap_literal?_symbol]
  | subtracted _ _ left right => simp [CExpr.literals, left, right, filterMap_literal?_symbol]

/-! ### From tokens to terminals -/

/-- The tokens that a terminal is written with. -/
def Terminal.tokens : Terminal → List CToken
  | .literal digits => [.number digits]
  | .slot table index => slotTokens table.toList (Nat.toDigits 10 index)
  | .symbol c => [.punctuator [c]]

theorem terminalsFrom_eq_drop (skip : Nat) (tokens : List CToken) :
    terminalsFrom skip tokens = terminals (tokens.drop skip) :=
  Text.scan_eq_drop (fun _ => by rw [terminalsFrom, terminalsFrom])
    (fun _ _ _ => by rw [terminalsFrom]) skip tokens

theorem slot?_slotTokens (table : String) (index : Nat) (rest : List CToken) :
    slot? (slotTokens table.toList (Nat.toDigits 10 index) ++ rest) = some (table, index) := by
  have decimal := all_isDigit_toDigits index
  simp [slot?, slotTokens, isPlainLiteral_toDigits]
  simpa using decimal

/-- Only a slot reference has the keyword in the third place. -/
theorem slot?_eq_none {tokens : List CToken}
    (other : tokens[2]? ≠ some (.word ['l', 'o', 'n', 'g'])) : slot? tokens = none := by
  unfold slot?
  split
  · next table index _ _ =>
      rw [if_neg]
      rintro ⟨same, -⟩
      have third : (tokens.take 11)[2]? = (slotTokens table index)[2]? := by rw [same]
      rw [List.getElem?_take_of_lt (by decide)] at third
      exact other third
  · rfl

theorem terminals_slot (table : String) (index : Nat) (rest : List CToken) :
    terminals ((Terminal.slot table index).tokens ++ rest) =
      (terminals rest).map (Terminal.slot table index :: ·) := by
  have found := slot?_slotTokens table index rest
  have shape : ∃ first more, slotTokens table.toList (Nat.toDigits 10 index) = first :: more ∧
      more.length = 10 := ⟨_, _, rfl, rfl⟩
  obtain ⟨first, more, shape, length⟩ := shape
  rw [Terminal.tokens, shape, List.cons_append, terminals, terminalsFrom]
  rw [shape, List.cons_append] at found
  rw [found]
  simp only [terminalsFrom_eq_drop]
  rw [← length, List.drop_left]

/-- A token that starts no slot reference. -/
theorem terminals_cons {token : CToken} {rest : List CToken} {terminal : Terminal}
    (other : (token :: rest)[2]? ≠ some (.word ['l', 'o', 'n', 'g']))
    (read : terminal? token = some terminal) :
    terminals (token :: rest) = (terminals rest).map (terminal :: ·) := by
  rw [terminals, terminalsFrom, slot?_eq_none other, read]
  rfl

/-- After a terminal the keyword of a slot reference comes third at the earliest. -/
theorem tokens_second (ts : List Terminal) :
    (ts.flatMap Terminal.tokens)[1]? ≠ some (.word ['l', 'o', 'n', 'g']) := by
  match ts with
  | [] => simp
  | .slot table index :: ts => simp [Terminal.tokens, slotTokens]
  | [.literal digits] => simp [Terminal.tokens]
  | [.symbol c] => simp [Terminal.tokens]
  | .literal digits :: next :: ts => cases next <;> simp [Terminal.tokens, slotTokens]
  | .symbol c :: next :: ts => cases next <;> simp [Terminal.tokens, slotTokens]

/-- **The tokens of a list of terminals, read back.** -/
theorem terminals_tokens {ts : List Terminal} (arithmetic : ∀ terminal ∈ ts, terminal.isArithmetic) :
    terminals (ts.flatMap Terminal.tokens) = some ts := by
  induction ts with
  | nil => rfl
  | cons terminal ts ih =>
      have rest := ih fun other member => arithmetic other (List.mem_cons_of_mem _ member)
      rw [List.flatMap_cons]
      cases terminal with
      | slot table index => rw [terminals_slot, rest, Option.map_some]
      | literal digits =>
          rw [Terminal.tokens, List.singleton_append, terminals_cons (by simpa using tokens_second ts)
            rfl, rest, Option.map_some]
      | symbol c =>
          have known : c ∈ arithmeticSymbols := by
            simpa [Terminal.isArithmetic] using arithmetic _ List.mem_cons_self
          have read : terminal? (.punctuator [c]) = some (.symbol c) := by simp [terminal?, known]
          rw [Terminal.tokens, List.singleton_append, terminals_cons (by simpa using tokens_second ts)
            read, rest, Option.map_some]

/-- A sign that is written twice is no token of an arithmetic expression. A slot reference holds none
either. -/
theorem terminals_doubled {tokens : List CToken} {sign : Char}
    (member : CToken.punctuator [sign, sign] ∈ tokens) : terminals tokens = none := by
  induction size : tokens.length using Nat.strongRecOn generalizing tokens with
  | ind n ih =>
      cases tokens with
      | nil => simp at member
      | cons token rest =>
          rw [terminals, terminalsFrom]
          split
          · next table index found =>
              have later : CToken.punctuator [sign, sign] ∈ rest.drop 10 := by
                have split := List.take_append_drop 11 (token :: rest)
                rw [← split, List.mem_append] at member
                rcases member with inside | later
                · unfold slot? at found
                  split at found
                  · split at found
                    · next same => simp [same.1, slotTokens] at inside
                    · cases found
                  · cases found
                · simpa using later
              rw [terminalsFrom_eq_drop, ih _ (by simp at size ⊢; omega) later rfl, Option.map_none]
          · rcases List.mem_cons.mp member with rfl | later
            · rfl
            · rw [terminalsFrom_eq_drop, List.drop_zero,
                ih rest.length (by simp at size; omega) later rfl]
              cases terminal? token <;> rfl

end ForeignGlue.CExpression
