/-
**The reader of bounds and the productions of C.**

A bound is read by descent, from its lexemes. C reads the host form by its productions, from
terminals that stand for the same lexemes. Both come to the same expression.

* `KeptByReaders.reads_readSum`: what each branch of the readers keeps, the whole reader keeps.
* `readSum_derives`: what the reader takes without a mistake is derived.
* `takes_of_derives`: what is derived is read, whatever may follow it.
* `derives_lexemes_iff`: a whole bound is derived as the one expression that it is read as.
-/

import ForeignGlue.Proofs.HostForm.Lexing

namespace ForeignGlue

open ForeignGlue.CExpression
open ForeignGlue.Expression
open ForeignGlue.Text

/-- The expression that a tree stands for, its names being slots. A tree that shows a mistake stands
for none. -/
def Expression.Tree.hosted? (place : String → String × Nat) : Tree → Option CExpr
  | .number digits => some (.literal digits)
  | .name label => some (.slot (place label).1 (place label).2)
  | .negated operand => (operand.hosted? place).map .negated
  | .binary operator left right =>
    (left.hosted? place).bind fun x => (right.hosted? place).map (.binary operator x)
  | .missing | .unclosed _ => none

variable {place : String → String × Nat}

/-! ### The readers, one step each -/

/-- What a reader took and what it left. -/
def outcome {source : List Lexeme} (read : Tree × Rest source) : Tree × List Lexeme :=
  (read.1, read.2.1)

/-- A sum starts with a product. -/
theorem outcome_readSum (source : List Lexeme) : outcome (readSum source) =
    outcome (readSumRest (outcome (readProduct source)).1 (outcome (readProduct source)).2) := by
  rw [readSum]
  rfl

theorem outcome_readSumRest_add (left : Tree) (tail : List Lexeme) :
    outcome (readSumRest left (.symbol '+' :: tail)) =
      outcome (readSumRest (.binary .add left (outcome (readProduct tail)).1)
        (outcome (readProduct tail)).2) := by
  rw [readSumRest]
  rfl

theorem outcome_readSumRest_sub (left : Tree) (tail : List Lexeme) :
    outcome (readSumRest left (.symbol '-' :: tail)) =
      outcome (readSumRest (.binary .sub left (outcome (readProduct tail)).1)
        (outcome (readProduct tail)).2) := by
  rw [readSumRest]
  rfl

/-- A product starts with an operand. -/
theorem outcome_readProduct (source : List Lexeme) : outcome (readProduct source) =
    outcome (readProductRest (outcome (readUnary source)).1 (outcome (readUnary source)).2) := by
  rw [readProduct]
  rfl

theorem outcome_readProductRest_mul (left : Tree) (tail : List Lexeme) :
    outcome (readProductRest left (.symbol '*' :: tail)) =
      outcome (readProductRest (.binary .mul left (outcome (readUnary tail)).1)
        (outcome (readUnary tail)).2) := by
  rw [readProductRest]
  rfl

theorem outcome_readProductRest_div (left : Tree) (tail : List Lexeme) :
    outcome (readProductRest left (.symbol '/' :: tail)) =
      outcome (readProductRest (.binary .div left (outcome (readUnary tail)).1)
        (outcome (readUnary tail)).2) := by
  rw [readProductRest]
  rfl

/-- A minus sign before an operand. -/
theorem outcome_readUnary_neg (tail : List Lexeme) :
    outcome (readUnary (.symbol '-' :: tail)) =
      (.negated (outcome (readUnary tail)).1, (outcome (readUnary tail)).2) := by
  rw [readUnary]
  rfl

theorem outcome_readUnary_plus (tail : List Lexeme) :
    outcome (readUnary (.symbol '+' :: tail)) = outcome (readUnary tail) := by
  rw [readUnary]
  rfl

/-- A sum in parentheses. -/
theorem outcome_readPrimary_closed {tail rest : List Lexeme}
    (closing : (outcome (readSum tail)).2 = .symbol ')' :: rest) :
    outcome (readPrimary (.symbol '(' :: tail)) = ((outcome (readSum tail)).1, rest) := by
  rw [readPrimary]
  generalize readSum tail = read at closing ⊢
  obtain ⟨inner, more, bound⟩ := read
  obtain rfl : more = .symbol ')' :: rest := closing
  rfl

/-- Only a closing parenthesis is passed over. -/
theorem eq_closing_of_afterClosing? {source rest : List Lexeme} {bound : rest.length ≤ source.length}
    (found : afterClosing? source = some ⟨rest, bound⟩) : source = .symbol ')' :: rest := by
  unfold afterClosing? at found
  split at found
  · simp only [Option.some.injEq, Subtype.mk.injEq] at found
    rw [found]
  · cases found

/-! ### One induction over the readers -/

/-- **What the readers keep**, with one rule for each of their branches. `reads` is said of what is read
of a source at a level, and `continues` of what is read of it after a first operand. -/
structure KeptByReaders (reads : Level → List Lexeme → Tree × List Lexeme → Prop)
    (continues : Level → Tree → List Lexeme → Tree × List Lexeme → Prop) : Prop where
  sum : ∀ {source first read}, reads .multiplicative source first →
    continues .additive first.1 first.2 read → reads .additive source read
  added : ∀ {left source right read}, reads .multiplicative source right →
    continues .additive (.binary .add left right.1) right.2 read →
    continues .additive left (.symbol '+' :: source) read
  subtracted : ∀ {left source right read}, reads .multiplicative source right →
    continues .additive (.binary .sub left right.1) right.2 read →
    continues .additive left (.symbol '-' :: source) read
  product : ∀ {source first read}, reads .unary source first →
    continues .multiplicative first.1 first.2 read → reads .multiplicative source read
  multiplied : ∀ {left source right read}, reads .unary source right →
    continues .multiplicative (.binary .mul left right.1) right.2 read →
    continues .multiplicative left (.symbol '*' :: source) read
  divided : ∀ {left source right read}, reads .unary source right →
    continues .multiplicative (.binary .div left right.1) right.2 read →
    continues .multiplicative left (.symbol '/' :: source) read
  stopped : ∀ {level left source}, continues level left source (left, source)
  negated : ∀ {source read}, reads .unary source read →
    reads .unary (.symbol '-' :: source) (.negated read.1, read.2)
  promoted : ∀ {source read}, reads .unary source read → reads .unary (.symbol '+' :: source) read
  number : ∀ {digits rest}, reads .unary (.number digits :: rest) (.number digits, rest)
  name : ∀ {label rest}, reads .unary (.name label :: rest) (.name label, rest)
  parenthesized : ∀ {source tree rest}, reads .additive source (tree, .symbol ')' :: rest) →
    reads .unary (.symbol '(' :: source) (tree, rest)
  unclosed : ∀ {source read}, reads .additive source read →
    reads .unary (.symbol '(' :: source) (.unclosed read.1, [])
  missing : ∀ {source}, reads .unary source (.missing, [])

/-- **What each branch keeps, the whole reader keeps.** The six readers call each other, and there is one
case for each of their branches. -/
theorem KeptByReaders.reads_readSum {reads : Level → List Lexeme → Tree × List Lexeme → Prop}
    {continues : Level → Tree → List Lexeme → Tree × List Lexeme → Prop}
    (kept : KeptByReaders reads continues) (source : List Lexeme) :
    reads .additive source (outcome (readSum source)) := by
  refine (readSum.mutual_induct
    (fun source => reads .additive source (outcome (readSum source)))
    (fun left source => continues .additive left source (outcome (readSumRest left source)))
    (fun source => reads .multiplicative source (outcome (readProduct source)))
    (fun left source => continues .multiplicative left source (outcome (readProductRest left source)))
    (fun source => reads .unary source (outcome (readUnary source)))
    (fun source => reads .unary source (outcome (readPrimary source)))
    ?sum ?added ?subtracted ?sumEnd ?product ?multiplied ?divided ?productEnd ?negated ?promoted
    ?primary ?number ?name ?closed ?unclosed ?missing).1 source
  case sum =>
    intro source first tail _ firstRead _ _ _ _ start more
    rw [outcome_readSum]
    rw [firstRead] at start ⊢
    exact kept.sum start more
  case added =>
    intro left tail right more _ rightRead _ _ _ _ operand later
    rw [outcome_readSumRest_add]
    rw [rightRead] at operand ⊢
    exact kept.added operand later
  case subtracted =>
    intro left tail right more _ rightRead _ _ _ _ operand later
    rw [outcome_readSumRest_sub]
    rw [rightRead] at operand ⊢
    exact kept.subtracted operand later
  case sumEnd =>
    intro left source noPlus noMinus
    rw [readSumRest.eq_3 left source noPlus noMinus]
    exact kept.stopped
  case product =>
    intro source first tail _ firstRead _ _ _ _ start more
    rw [outcome_readProduct]
    rw [firstRead] at start ⊢
    exact kept.product start more
  case multiplied =>
    intro left tail right more _ rightRead _ _ _ _ operand later
    rw [outcome_readProductRest_mul]
    rw [rightRead] at operand ⊢
    exact kept.multiplied operand later
  case divided =>
    intro left tail right more _ rightRead _ _ _ _ operand later
    rw [outcome_readProductRest_div]
    rw [rightRead] at operand ⊢
    exact kept.divided operand later
  case productEnd =>
    intro left source noStar noSlash
    rw [readProductRest.eq_3 left source noStar noSlash]
    exact kept.stopped
  case negated =>
    intro tail _ _ _ _ operand
    rw [outcome_readUnary_neg]
    exact kept.negated operand
  case promoted =>
    intro tail _ _ _ _ operand
    rw [outcome_readUnary_plus]
    exact kept.promoted operand
  case primary =>
    intro source noMinus noPlus operand
    rw [readUnary.eq_3 source noMinus noPlus]
    exact operand
  case number =>
    intro digits tail
    rw [readPrimary]
    exact kept.number
  case name =>
    intro label tail
    rw [readPrimary]
    exact kept.name
  case closed =>
    intro tail inner more _ innerRead rest _ closing sum
    have closed : (outcome (readSum tail)).2 = .symbol ')' :: rest := by
      rw [innerRead]
      exact eq_closing_of_afterClosing? closing
    rw [outcome_readPrimary_closed closed]
    refine kept.parenthesized ?_
    rw [← closed]
    exact sum
  case unclosed =>
    intro tail inner more _ innerRead closing sum
    rw [innerRead] at sum
    rw [readPrimary, innerRead]
    simp only [closing]
    exact kept.unclosed sum
  case missing =>
    intro source noNumber noName noOpening
    rw [readPrimary.eq_4 source noNumber noName noOpening]
    exact kept.missing

/-! ### What is read is derived -/

/-- What was read of `source` is derived, unless it shows a mistake. -/
def ReadsAs (place : String → String × Nat) (level : Level) (source : List Lexeme)
    (read : Tree × List Lexeme) : Prop :=
  ∀ x, read.1.hosted? place = some x → ∃ used, source = used ++ read.2 ∧
    Derives level (used.map (Lexeme.terminal place)) x

/-- What was read of `source` after `left` is derived together with anything `left` is derived
from. -/
def ContinuesAs (place : String → String × Nat) (level : Level) (left : Tree)
    (source : List Lexeme) (read : Tree × List Lexeme) : Prop :=
  ∀ x, read.1.hosted? place = some x → ∃ y, left.hosted? place = some y ∧
    ∀ before, Derives level before y → ∃ used, source = used ++ read.2 ∧
      Derives level (before ++ used.map (Lexeme.terminal place)) x

namespace ReadsAs

variable {level lower : Level} {source rest : List Lexeme} {tree : Tree}
  {first read : Tree × List Lexeme}

/-- An operand, and what goes on behind it. -/
theorem continued (weaken : ∀ {ts x}, Derives lower ts x → Derives level ts x)
    (start : ReadsAs place lower source first)
    (more : ContinuesAs place level first.1 first.2 read) : ReadsAs place level source read := by
  intro x hosted
  obtain ⟨y, firstHosted, extend⟩ := more x hosted
  obtain ⟨used, rfl, derived⟩ := start y firstHosted
  obtain ⟨later, left, whole⟩ := extend _ (weaken derived)
  refine ⟨used ++ later, by rw [left, List.append_assoc], ?_⟩
  rwa [List.map_append]

/-- A sign in front of an operand, which may change the expression. -/
theorem signed {sign : Char} {wrapped : Tree} (wrap : CExpr → CExpr)
    (hosts : wrapped.hosted? place = (read.1.hosted? place).map wrap)
    (derive : ∀ {ts x}, Derives .unary ts x → Derives .unary (.symbol sign :: ts) (wrap x))
    (operand : ReadsAs place .unary source read) :
    ReadsAs place .unary (.symbol sign :: source) (wrapped, read.2) := by
  intro x hosted
  obtain ⟨y, operandHosted, rfl⟩ := Option.map_eq_some_iff.mp (hosts.symm.trans hosted)
  obtain ⟨used, rfl, derived⟩ := operand y operandHosted
  exact ⟨.symbol sign :: used, rfl, derive derived⟩

theorem parenthesized (inner : ReadsAs place .additive source (tree, .symbol ')' :: rest)) :
    ReadsAs place .unary (.symbol '(' :: source) (tree, rest) := by
  intro x hosted
  obtain ⟨used, rfl, derived⟩ := inner x hosted
  refine ⟨.symbol '(' :: (used ++ [.symbol ')']), by simp, ?_⟩
  rw [List.map_cons, List.map_append]
  exact .parenthesized derived

/-- Where a mistake shows, nothing is claimed. -/
theorem mistaken (shows : read.1.hosted? place = none) : ReadsAs place level source read := by
  intro x hosted
  rw [shows] at hosted
  cases hosted

end ReadsAs

namespace ContinuesAs

variable {level lower : Level} {source : List Lexeme} {left : Tree}
  {right read : Tree × List Lexeme}

theorem stopped : ContinuesAs place level left source (left, source) :=
  fun x hosted => ⟨x, hosted, fun before derived => ⟨[], rfl, by simpa using derived⟩⟩

/-- An operator with its right operand, and what goes on behind it. -/
theorem operator {symbol : Char} {op : Operator}
    (derive : ∀ {ts us x y}, Derives level ts x → Derives lower us y →
      Derives level (ts ++ .symbol symbol :: us) (.binary op x y))
    (operand : ReadsAs place lower source right)
    (more : ContinuesAs place level (.binary op left right.1) right.2 read) :
    ContinuesAs place level left (.symbol symbol :: source) read := by
  intro x hosted
  obtain ⟨y, bothHosted, extend⟩ := more x hosted
  obtain ⟨leftExpr, leftHosted, bothHosted⟩ := Option.bind_eq_some_iff.mp bothHosted
  obtain ⟨rightExpr, rightHosted, rfl⟩ := Option.map_eq_some_iff.mp bothHosted
  refine ⟨leftExpr, leftHosted, fun before derived => ?_⟩
  obtain ⟨used, rfl, rightDerived⟩ := operand rightExpr rightHosted
  obtain ⟨later, left, whole⟩ := extend _ (derive derived rightDerived)
  refine ⟨.symbol symbol :: (used ++ later), by simp [left], ?_⟩
  simpa [Lexeme.terminal] using whole

end ContinuesAs

/-- **Every branch of the readers** reads what the grammar derives. -/
theorem keptByReaders_readsAs : KeptByReaders (ReadsAs place) (ContinuesAs place) where
  sum start more := start.continued .product more
  added operand more := .operator .added operand more
  subtracted operand more := .operator .subtracted operand more
  product start more := start.continued .single more
  multiplied operand more := .operator .multiplied operand more
  divided operand more := .operator .divided operand more
  stopped := .stopped
  negated operand := operand.signed .negated rfl .negated
  promoted operand := operand.signed id (Option.map_id_apply ..).symm .promoted
  number := by
    intro digits rest x hosted
    obtain rfl := Option.some.inj hosted
    exact ⟨[.number digits], rfl, .literal digits⟩
  name := by
    intro label rest x hosted
    obtain rfl := Option.some.inj hosted
    exact ⟨[.name label], rfl, .slot _ _⟩
  parenthesized inner := inner.parenthesized
  unclosed _ := .mistaken rfl
  missing := .mistaken rfl

/-- **What is read without a mistake is derived.** -/
theorem readSum_derives (source : List Lexeme) :
    ReadsAs place .additive source (outcome (readSum source)) :=
  keptByReaders_readsAs.reads_readSum source

/-! ### What is derived is read -/

theorem terminal_eq_symbol {lexeme : Lexeme} {c : Char}
    (seen : lexeme.terminal place = .symbol c) : lexeme = .symbol c := by
  cases lexeme with
  | number digits => cases seen
  | name label => cases seen
  | symbol d => rw [Terminal.symbol.inj seen]

theorem map_terminal_eq_literal {lexemes : List Lexeme} {digits : List Char}
    (seen : lexemes.map (Lexeme.terminal place) = [.literal digits]) : lexemes = [.number digits] := by
  obtain ⟨lexeme, none, rfl, isLiteral, noneSeen⟩ := List.map_eq_cons_iff.mp seen
  obtain rfl := List.map_eq_nil_iff.mp noneSeen
  cases lexeme with
  | number other => rw [Terminal.literal.inj isLiteral]
  | name label => cases isLiteral
  | symbol c => cases isLiteral

/-- A slot is written as a name that has this place. -/
theorem map_terminal_eq_slot {lexemes : List Lexeme} {table : String} {index : Nat}
    (seen : lexemes.map (Lexeme.terminal place) = [.slot table index]) :
    ∃ label, lexemes = [.name label] ∧ place label = (table, index) := by
  obtain ⟨lexeme, none, rfl, isSlot, noneSeen⟩ := List.map_eq_cons_iff.mp seen
  obtain rfl := List.map_eq_nil_iff.mp noneSeen
  cases lexeme with
  | name label =>
      obtain ⟨rfl, rfl⟩ := Terminal.slot.inj isSlot
      exact ⟨label, rfl, rfl⟩
  | number digits => cases isSlot
  | symbol c => cases isSlot

/-- Lexemes that are seen as two operands and an operator between them. -/
theorem map_terminal_eq_infix {lexemes : List Lexeme} {ts us : List Terminal} {c : Char}
    (seen : lexemes.map (Lexeme.terminal place) = ts ++ .symbol c :: us) :
    ∃ left right, lexemes = left ++ .symbol c :: right ∧
      left.map (Lexeme.terminal place) = ts ∧ right.map (Lexeme.terminal place) = us := by
  obtain ⟨left, more, rfl, leftSeen, moreSeen⟩ := List.map_eq_append_iff.mp seen
  obtain ⟨symbol, right, rfl, symbolSeen, rightSeen⟩ := List.map_eq_cons_iff.mp moreSeen
  exact ⟨left, right, by rw [terminal_eq_symbol symbolSeen], leftSeen, rightSeen⟩

/-- A product ends where no `*` and no `/` follows. -/
def EndsProduct (rest : List Lexeme) : Prop :=
  (∀ tail, rest ≠ .symbol '*' :: tail) ∧ ∀ tail, rest ≠ .symbol '/' :: tail

/-- A product ends before anything that is not its operator. -/
theorem outcome_readProductRest_end {left : Tree} {rest : List Lexeme} (ends : EndsProduct rest) :
    outcome (readProductRest left rest) = (left, rest) := by
  rw [readProductRest.eq_3 left rest ends.1 ends.2]
  rfl

theorem endsProduct_symbol {c : Char} {rest : List Lexeme} (other : c ≠ '*' ∧ c ≠ '/') :
    EndsProduct (.symbol c :: rest) := by
  constructor <;> intro tail same
  · exact other.1 (Lexeme.symbol.inj (List.cons.inj same).1)
  · exact other.2 (Lexeme.symbol.inj (List.cons.inj same).1)

/-- The reader of a level takes lexemes that are seen as `ts` for a tree that stands for `x`. In a
product or a sum it then goes on with what follows. -/
def Takes (place : String → String × Nat) (level : Level) (ts : List Terminal) (x : CExpr) : Prop :=
  ∀ lexemes rest, lexemes.map (Lexeme.terminal place) = ts →
    ∃ tree : Tree, tree.hosted? place = some x ∧
      match level with
      | .unary => outcome (readUnary (lexemes ++ rest)) = (tree, rest)
      | .multiplicative =>
        outcome (readProduct (lexemes ++ rest)) = outcome (readProductRest tree rest)
      | .additive => EndsProduct rest →
        outcome (readSum (lexemes ++ rest)) = outcome (readSumRest tree rest)

namespace Takes

variable {ts us : List Terminal} {x y : CExpr}

theorem literal (digits : List Char) : Takes place .unary [.literal digits] (.literal digits) := by
  intro lexemes rest seen
  obtain rfl := map_terminal_eq_literal seen
  refine ⟨.number digits, rfl, ?_⟩
  show outcome (readUnary (.number digits :: rest)) = _
  rw [readUnary.eq_3 _ (by simp) (by simp), readPrimary]
  rfl

theorem slot (table : String) (index : Nat) :
    Takes place .unary [.slot table index] (.slot table index) := by
  intro lexemes rest seen
  obtain ⟨label, rfl, isPlace⟩ := map_terminal_eq_slot seen
  refine ⟨.name label, by rw [Tree.hosted?, isPlace], ?_⟩
  show outcome (readUnary (.name label :: rest)) = _
  rw [readUnary.eq_3 _ (by simp) (by simp), readPrimary]
  rfl

theorem parenthesized (inner : Takes place .additive ts x) :
    Takes place .unary (.symbol '(' :: (ts ++ [.symbol ')'])) x := by
  intro lexemes rest seen
  obtain ⟨opening, more, rfl, openingSeen, moreSeen⟩ := List.map_eq_cons_iff.mp seen
  obtain rfl := terminal_eq_symbol openingSeen
  obtain ⟨inside, after, rfl, insideSeen, afterSeen⟩ := map_terminal_eq_infix moreSeen
  obtain rfl := List.map_eq_nil_iff.mp afterSeen
  obtain ⟨tree, hosted, read⟩ := inner inside (.symbol ')' :: rest) insideSeen
  refine ⟨tree, hosted, ?_⟩
  have sum : outcome (readSum (inside ++ .symbol ')' :: rest)) = (tree, .symbol ')' :: rest) := by
    rw [read (endsProduct_symbol (by decide)), readSumRest.eq_3 _ _ (by simp) (by simp)]
    rfl
  show outcome (readUnary (.symbol '(' :: ((inside ++ [.symbol ')']) ++ rest))) = _
  rw [readUnary.eq_3 _ (by simp) (by simp), List.append_assoc, List.singleton_append,
    outcome_readPrimary_closed (congrArg Prod.snd sum), sum]

/-- A sign in front of an operand, which may change the tree. -/
theorem signed {sign : Char} (wrap : Tree → Tree) (wrapped : CExpr → CExpr)
    (hosts : ∀ {tree x}, Tree.hosted? place tree = some x →
      (wrap tree).hosted? place = some (wrapped x))
    (step : ∀ tail, outcome (readUnary (.symbol sign :: tail)) =
      (wrap (outcome (readUnary tail)).1, (outcome (readUnary tail)).2))
    (operand : Takes place .unary ts x) : Takes place .unary (.symbol sign :: ts) (wrapped x) := by
  intro lexemes rest seen
  obtain ⟨first, more, rfl, signSeen, moreSeen⟩ := List.map_eq_cons_iff.mp seen
  obtain rfl := terminal_eq_symbol signSeen
  obtain ⟨tree, hosted, read⟩ := operand more rest moreSeen
  refine ⟨wrap tree, hosts hosted, ?_⟩
  show outcome (readUnary (.symbol sign :: (more ++ rest))) = _
  rw [step, read]

theorem single (operand : Takes place .unary ts x) : Takes place .multiplicative ts x := by
  intro lexemes rest seen
  obtain ⟨tree, hosted, read⟩ := operand lexemes rest seen
  refine ⟨tree, hosted, ?_⟩
  show outcome (readProduct (lexemes ++ rest)) = _
  rw [outcome_readProduct, read]

theorem product (operand : Takes place .multiplicative ts x) : Takes place .additive ts x := by
  intro lexemes rest seen
  obtain ⟨tree, hosted, read⟩ := operand lexemes rest seen
  refine ⟨tree, hosted, fun ends => ?_⟩
  show outcome (readSum (lexemes ++ rest)) = _
  rw [outcome_readSum, read, outcome_readProductRest_end ends]

theorem hosted_binary {left right : Tree} (op : Operator) (leftHosted : left.hosted? place = some x)
    (rightHosted : right.hosted? place = some y) :
    (Tree.binary op left right).hosted? place = some (.binary op x y) := by
  rw [Tree.hosted?, leftHosted, rightHosted]
  rfl

/-- A further factor. -/
theorem factor {c : Char} {op : Operator} (left : Takes place .multiplicative ts x)
    (right : Takes place .unary us y)
    (step : ∀ tree tail, outcome (readProductRest tree (.symbol c :: tail)) =
      outcome (readProductRest (.binary op tree (outcome (readUnary tail)).1)
        (outcome (readUnary tail)).2)) :
    Takes place .multiplicative (ts ++ .symbol c :: us) (.binary op x y) := by
  intro lexemes rest seen
  obtain ⟨before, after, rfl, beforeSeen, afterSeen⟩ := map_terminal_eq_infix seen
  obtain ⟨rightTree, rightHosted, rightRead⟩ := right after rest afterSeen
  obtain ⟨leftTree, leftHosted, leftRead⟩ := left before (.symbol c :: (after ++ rest)) beforeSeen
  refine ⟨.binary op leftTree rightTree, hosted_binary op leftHosted rightHosted, ?_⟩
  show outcome (readProduct ((before ++ .symbol c :: after) ++ rest)) = _
  rw [List.append_assoc, List.cons_append, leftRead, step, rightRead]

/-- A further summand. -/
theorem summand {c : Char} {op : Operator} (left : Takes place .additive ts x)
    (right : Takes place .multiplicative us y) (ends : c ≠ '*' ∧ c ≠ '/')
    (step : ∀ tree tail, outcome (readSumRest tree (.symbol c :: tail)) =
      outcome (readSumRest (.binary op tree (outcome (readProduct tail)).1)
        (outcome (readProduct tail)).2)) :
    Takes place .additive (ts ++ .symbol c :: us) (.binary op x y) := by
  intro lexemes rest seen
  obtain ⟨before, after, rfl, beforeSeen, afterSeen⟩ := map_terminal_eq_infix seen
  obtain ⟨rightTree, rightHosted, rightRead⟩ := right after rest afterSeen
  obtain ⟨leftTree, leftHosted, leftRead⟩ := left before (.symbol c :: (after ++ rest)) beforeSeen
  refine ⟨.binary op leftTree rightTree, hosted_binary op leftHosted rightHosted, fun stops => ?_⟩
  show outcome (readSum ((before ++ .symbol c :: after) ++ rest)) = _
  rw [List.append_assoc, List.cons_append, leftRead (endsProduct_symbol ends), step, rightRead,
    outcome_readProductRest_end stops]

end Takes

/-- **What is derived is read**, by the reader of its level. -/
theorem takes_of_derives {level : Level} {ts : List Terminal} {x : CExpr}
    (derived : Derives level ts x) : Takes place level ts x := by
  induction derived with
  | literal digits => exact .literal digits
  | slot table index => exact .slot table index
  | parenthesized _ inner => exact inner.parenthesized
  | negated _ operand =>
      refine operand.signed .negated .negated (fun hosted => ?_) outcome_readUnary_neg
      rw [Tree.hosted?, hosted]
      rfl
  | promoted _ operand => exact operand.signed id id (fun hosted => hosted) outcome_readUnary_plus
  | single _ operand => exact operand.single
  | multiplied _ _ left right => exact left.factor right outcome_readProductRest_mul
  | divided _ _ left right => exact left.factor right outcome_readProductRest_div
  | product _ operand => exact operand.product
  | added _ _ left right => exact left.summand right (by decide) outcome_readSumRest_add
  | subtracted _ _ left right => exact left.summand right (by decide) outcome_readSumRest_sub

/-- **A bound is derived as the one expression that it is read as.** -/
theorem derives_lexemes_iff {expression : String} {x : CExpr} :
    Derives .additive ((lexemes expression).map (Lexeme.terminal place)) x ↔
      ((readTree expression).1.hosted? place = some x ∧ (readTree expression).2 = []) := by
  have same : readTree expression = outcome (readSum (lexemes expression)) := rfl
  rw [same]
  constructor
  · intro derived
    obtain ⟨tree, hosted, read⟩ := takes_of_derives derived _ [] rfl
    have whole := read ⟨by simp, by simp⟩
    rw [List.append_nil, readSumRest.eq_3 _ _ (by simp) (by simp)] at whole
    rw [whole]
    exact ⟨hosted, rfl⟩
  · rintro ⟨hosted, finished⟩
    obtain ⟨used, split, derived⟩ := readSum_derives (lexemes expression) x hosted
    rw [finished, List.append_nil] at split
    rwa [split]

end ForeignGlue
