/-
**The evaluator computes exactly.**

`evaluate` computes in 64 bits while it reads. Its arithmetic is compared here with that of all
integers: the value of a derived tree, in which division goes toward zero and nothing is cut off.

* `Tree.exact`: the value of a tree over all integers.
* `Tree.exact_of_eval`, `Tree.eval_of_exact`: the evaluator has this value, exactly if no part of the
  tree leaves the range.
* `Phrase.Derives.mem_parts_iff`: the operands of a derived tree are the numbers and names of its
  source.
* `isReadable_of_plain`: a decimal digit of any script is part of a number.
* `evaluate_eq_ok_iff_derives`: what is evaluated, and to what.
-/

import ForeignGlue.Proofs.Expression.Grammar

namespace ForeignGlue.Expression

open ForeignGlue.CExpression (literalValue_eq_ok)
open ForeignGlue.Text

/-! ### Arithmetic without bounds -/

/-- The result of an operator over all integers. Only a division by zero has none. -/
def Operator.exact : Operator → Int → Int → Option Int
  | .add, left, right => some (left + right)
  | .sub, left, right => some (left - right)
  | .mul, left, right => some (left * right)
  | .div, left, right => if right = 0 then none else some (left.tdiv right)

namespace Tree

/-- The value of a tree over all integers, if its names have values and no divisor is zero. -/
def exact (lookup : String → Option Int) : Tree → Option Int
  | .number digits => some (Nat.ofDigitChars 10 digits 0 : Nat)
  | .name label => lookup label
  | .negated operand => (operand.exact lookup).map fun value => -value
  | .binary operator left right =>
    (left.exact lookup).bind fun first => (right.exact lookup).bind fun second =>
      operator.exact first second
  | .missing | .unclosed _ => none

/-- The parts of a tree, itself included. -/
def parts : Tree → List Tree
  | .negated operand => .negated operand :: operand.parts
  | .binary operator left right => .binary operator left right :: (left.parts ++ right.parts)
  | .unclosed inner => .unclosed inner :: inner.parts
  | .number digits => [.number digits]
  | .name label => [.name label]
  | .missing => [.missing]

theorem self_mem_parts (tree : Tree) : tree ∈ tree.parts := by
  cases tree <;> exact List.mem_cons_self

/-- No value of a part leaves the range of 64 bits. -/
def StaysInRange (lookup : String → Option Int) (tree : Tree) : Prop :=
  ∀ part ∈ tree.parts, ∀ value, part.exact lookup = some value → fitsWord value

variable {lookup : String → Option Int} {tree : Tree} {value : Int}

theorem apply_eq_ok_iff_exact {operator : Operator} {left right result : Int} :
    operator.apply left right = .ok result ↔
      fitsWord result ∧ operator.exact left right = some result := by
  rw [apply_eq_ok_iff]
  cases operator with
  | add => simp only [Operator.exact, Option.some.injEq]
  | sub => simp only [Operator.exact, Option.some.injEq]
  | mul => simp only [Operator.exact, Option.some.injEq]
  | div =>
      by_cases zero : right = 0
      · simp [Operator.exact, zero]
      · simp [Operator.exact, zero]

/-- What the evaluator computes is exact. -/
theorem exact_of_eval (valued : tree.eval lookup = .ok value) : tree.exact lookup = some value := by
  induction tree generalizing value with
  | number digits => rw [exact, (literalValue_eq_ok valued).2.1]
  | name label =>
      rw [eval] at valued
      split at valued
      · next known =>
          obtain ⟨-, rfl⟩ := checked_eq_ok_iff.mp valued
          exact known
      · cases valued
  | negated operand ih =>
      obtain ⟨inner, operandValued, negated⟩ := bind_eq_ok_iff.mp valued
      obtain ⟨-, rfl⟩ := checked_eq_ok_iff.mp negated
      rw [exact, ih operandValued]
      rfl
  | binary operator left right leftIh rightIh =>
      obtain ⟨first, leftValued, valued⟩ := bind_eq_ok_iff.mp valued
      obtain ⟨second, rightValued, applied⟩ := bind_eq_ok_iff.mp valued
      rw [exact, leftIh leftValued, rightIh rightValued]
      exact (apply_eq_ok_iff_exact.mp applied).2
  | missing => cases valued
  | unclosed inner _ =>
      obtain ⟨_, -, failed⟩ := bind_eq_ok_iff.mp valued
      cases failed

/-- The evaluator comes by every part. -/
theorem eval_of_mem_parts (valued : tree.eval lookup = .ok value) :
    ∀ part ∈ tree.parts, ∃ inner, part.eval lookup = .ok inner := by
  induction tree generalizing value with
  | number digits => exact List.forall_mem_singleton.mpr ⟨value, valued⟩
  | name label => exact List.forall_mem_singleton.mpr ⟨value, valued⟩
  | negated operand ih =>
      obtain ⟨inner, operandValued, -⟩ := bind_eq_ok_iff.mp valued
      exact List.forall_mem_cons.mpr ⟨⟨value, valued⟩, ih operandValued⟩
  | binary operator left right leftIh rightIh =>
      have whole := valued
      obtain ⟨first, leftValued, valued⟩ := bind_eq_ok_iff.mp valued
      obtain ⟨second, rightValued, -⟩ := bind_eq_ok_iff.mp valued
      refine List.forall_mem_cons.mpr ⟨⟨value, whole⟩, ?_⟩
      exact List.forall_mem_append.mpr ⟨leftIh leftValued, rightIh rightValued⟩
  | missing => cases valued
  | unclosed inner _ =>
      obtain ⟨_, -, failed⟩ := bind_eq_ok_iff.mp valued
      cases failed

theorem staysInRange_of_eval (valued : tree.eval lookup = .ok value) : tree.StaysInRange lookup := by
  intro part member inner known
  obtain ⟨result, partValued⟩ := eval_of_mem_parts valued part member
  obtain rfl := Option.some.inj (known.symm.trans (exact_of_eval partValued))
  exact fitsWord_of_eval partValued

/-- What is exact and in range is computed by the evaluator. -/
theorem eval_of_exact (known : tree.exact lookup = some value) (inRange : tree.StaysInRange lookup)
    (decimal : ∀ digits, .number digits ∈ tree.parts → digits.all Char.isDigit) :
    tree.eval lookup = .ok value := by
  have fits : fitsWord value := inRange tree tree.self_mem_parts value known
  induction tree generalizing value with
  | number digits =>
      obtain rfl := Option.some.inj known
      exact if_pos (Bool.and_eq_true_iff.mpr ⟨decimal digits List.mem_cons_self, fits⟩)
  | name label =>
      rw [eval, show lookup label = some value from known]
      exact checked_eq_ok_iff.mpr ⟨fits, rfl⟩
  | negated operand ih =>
      obtain ⟨inner, operandKnown, rfl⟩ := Option.map_eq_some_iff.mp known
      obtain ⟨-, operandInRange⟩ := List.forall_mem_cons.mp inRange
      have operandFits := operandInRange operand operand.self_mem_parts inner operandKnown
      have operandValued := ih operandKnown operandInRange
        (fun digits member => decimal digits (List.mem_cons_of_mem _ member)) operandFits
      exact bind_eq_ok_iff.mpr ⟨inner, operandValued, checked_eq_ok_iff.mpr ⟨fits, rfl⟩⟩
  | binary operator left right leftIh rightIh =>
      obtain ⟨first, leftKnown, known⟩ := Option.bind_eq_some_iff.mp known
      obtain ⟨second, rightKnown, applied⟩ := Option.bind_eq_some_iff.mp known
      obtain ⟨-, operandsInRange⟩ := List.forall_mem_cons.mp inRange
      obtain ⟨leftInRange, rightInRange⟩ := List.forall_mem_append.mp operandsInRange
      have leftValued := leftIh leftKnown leftInRange
        (fun digits member =>
          decimal digits (List.mem_cons_of_mem _ (List.mem_append_left _ member)))
        (leftInRange left left.self_mem_parts first leftKnown)
      have rightValued := rightIh rightKnown rightInRange
        (fun digits member =>
          decimal digits (List.mem_cons_of_mem _ (List.mem_append_right _ member)))
        (rightInRange right right.self_mem_parts second rightKnown)
      exact bind_eq_ok_iff.mpr ⟨first, leftValued, bind_eq_ok_iff.mpr ⟨second, rightValued,
        apply_eq_ok_iff_exact.mpr ⟨fits, applied⟩⟩⟩
  | missing => cases known
  | unclosed inner _ => cases known

end Tree

/-! ### Operands -/

/-- The tree of a single operand. -/
def Lexeme.operand? : Lexeme → Option Tree
  | .number digits => some (.number digits)
  | .name label => some (.name label)
  | .symbol _ => none

/-- **The operands of a derived tree** are the numbers and names of what it is derived from. -/
theorem Phrase.Derives.mem_parts_iff {phrase : Phrase} {source : List Lexeme} {tree operand : Tree}
    {lexeme : Lexeme} (derived : phrase.Derives source tree)
    (isOperand : lexeme.operand? = some operand) : operand ∈ tree.parts ↔ lexeme ∈ source := by
  induction derived with
  | number digits => cases lexeme <;> cases isOperand <;> simp [Tree.parts]
  | name label => cases lexeme <;> cases isOperand <;> simp [Tree.parts]
  | parenthesized _ ih => cases lexeme <;> cases isOperand <;> simp [ih]
  | unsigned _ ih => exact ih
  | plus _ ih => cases lexeme <;> cases isOperand <;> simp [ih]
  | minus _ ih => cases lexeme <;> cases isOperand <;> simp [Tree.parts, ih]
  | single _ ih => exact ih
  | term _ ih => exact ih
  | multiplied _ _ left right | divided _ _ left right
  | added _ _ left right | subtracted _ _ left right =>
      cases lexeme <;> cases isOperand <;> simp [Tree.parts, left, right]

/-! ### Readable expressions -/

theorem numberLength_ne_zero {c : Char} {cs : List Char} (digit : isDecimalDigit c) :
    numberLength (c :: cs) ≠ 0 := by
  have run : digitRun (c :: cs) ≠ 0 := by simp [digitRun, digit]
  have mantissa : mantissaLength (c :: cs) ≠ 0 := by
    rw [mantissaLength, if_neg run]
    omega
  rw [numberLength, if_neg mantissa]
  omega

/-- The symbols of an expression are no decimal digits. -/
theorem not_isDecimalDigit_of_mem_lexemes {expression : String} {c : Char}
    (member : .symbol c ∈ lexemes expression) :
    isDecimalDigit c = false ∧ isBlank c = false ∧ c ∈ expression.toList := by
  obtain ⟨token, listed, inside⟩ := List.mem_flatMap.mp member
  have cut : token.CutAs (fun _ => True) (fun _ => True) (isDecimalDigit · = false) :=
    cutAs_of_mem_tokensFrom (fun _ _ _ => trivial) (fun _ _ _ => trivial)
      (fun c cs noNumber _ => Bool.not_eq_true _ ▸ fun digit => numberLength_ne_zero digit noNumber)
      token listed
  obtain ⟨_ | _ | _, chars⟩ := token
  · simp [Token.lexemes] at inside
  · simp [Token.lexemes] at inside
  · simp only [Token.lexemes, List.mem_map, List.mem_filter, Lexeme.symbol.injEq] at inside
    obtain ⟨_, ⟨inside, visible⟩, rfl⟩ := inside
    refine ⟨cut _ inside, by simpa using visible, ?_⟩
    rw [← flatMap_tokensFrom expression.toList]
    exact List.mem_flatMap.mpr ⟨_, listed, inside⟩

/-- The characters outside ASCII are blanks and decimal digits. -/
def HasPlainSymbols (expression : String) : Prop :=
  ∀ c ∈ expression.toList, isAscii c = false → isBlank c ∨ isDecimalDigit c

theorem isReadable_of_plain {expression : String} (plain : HasPlainSymbols expression) :
    isReadable expression := by
  rw [isReadable, List.all_eq_true]
  intro lexeme member
  cases lexeme with
  | number digits => rfl
  | name label => rfl
  | symbol c =>
      obtain ⟨noDigit, visible, inside⟩ := not_isDecimalDigit_of_mem_lexemes member
      show isAscii c = true
      by_contra other
      rcases plain c inside (Bool.not_eq_true _ ▸ other) with blank | digit
      · rw [visible] at blank
        cases blank
      · rw [noDigit] at digit
        cases digit

/-! ### What is evaluated -/

theorem evaluate_of_readTree {expression : String} {lookup : String → Option Int} {tree : Tree}
    {value : Int} (readable : isReadable expression) (read : readTree expression = (tree, []))
    (valued : tree.eval lookup = .ok value) : evaluate expression lookup = .ok value := by
  rw [evaluate, if_pos readable, mapError_eq_ok_iff, evaluateReadable, read]
  exact bind_eq_ok_iff.mpr ⟨value, valued, rfl⟩

/-- **The evaluator decides the grammar, with exact arithmetic**: an expression has a value exactly if
its lexemes, all of them, are a sum of the grammar, its numbers are decimal and below two to the 63rd,
its names have values, and its value over all integers is reached without leaving 64 bits. This is the
value. -/
theorem evaluate_eq_ok_iff_derives {expression : String} (lookup : String → Option Int)
    (value : Int) (plain : HasPlainSymbols expression) :
    evaluate expression lookup = .ok value ↔
      ∃ tree, Phrase.Derives .sum (lexemes expression) tree ∧
        (∀ digits, .number digits ∈ lexemes expression →
          digits.all Char.isDigit ∧ Nat.ofDigitChars 10 digits 0 < 0x8000000000000000) ∧
        (∀ label, .name label ∈ lexemes expression → (lookup label).isSome) ∧
        tree.exact lookup = some value ∧ tree.StaysInRange lookup := by
  constructor
  · intro valued
    obtain ⟨treeValued, finished⟩ := readTree_of_evaluate valued
    obtain ⟨x, hosted, -⟩ := hosted_of_eval treeValued slotOfName
    have derived : Phrase.Derives .sum (lexemes expression) (readTree expression).1 :=
      derives_iff.mpr ⟨Prod.ext rfl finished, Option.isSome_of_eq_some hosted⟩
    have operandValued {lexeme : Lexeme} {operand : Tree}
        (isOperand : lexeme.operand? = some operand) (member : lexeme ∈ lexemes expression) :
        ∃ inner, operand.eval lookup = .ok inner :=
      Tree.eval_of_mem_parts treeValued operand ((derived.mem_parts_iff isOperand).mpr member)
    refine ⟨_, derived, fun digits member => ?_, fun label member => ?_,
      Tree.exact_of_eval treeValued, Tree.staysInRange_of_eval treeValued⟩
    · obtain ⟨inner, literal⟩ := operandValued rfl member
      obtain ⟨decimal, -, small⟩ := literalValue_eq_ok literal
      exact ⟨decimal, small⟩
    · obtain ⟨inner, named⟩ := operandValued rfl member
      have known : lookup label = some inner := Tree.exact_of_eval named
      exact Option.isSome_of_eq_some known
  · rintro ⟨tree, derived, numbers, -, known, inRange⟩
    refine evaluate_of_readTree (isReadable_of_plain plain) (derives_iff.mp derived).1 ?_
    refine Tree.eval_of_exact known inRange fun digits member => ?_
    exact (numbers digits ((derived.mem_parts_iff rfl).mp member)).1

/-- A bound with a blank outside ASCII, signs in a row, and a division that goes toward zero. -/
def signedQuotient : String :=
  "-(n -\u00a0-7)/2"

theorem evaluate_eq_ok_iff_derives_signedQuotient :
    HasPlainSymbols signedQuotient ∧ ∃ tree, Phrase.Derives .sum (lexemes signedQuotient) tree ∧
      tree.exact (fun label => if label = "n" then some 4 else none) = some (-5) := by
  have plain : HasPlainSymbols signedQuotient := forall_mem_of_all (by decide +kernel)
  have valued : evaluate signedQuotient (fun label => if label = "n" then some 4 else none) =
      .ok (-5) := by
    decide +kernel
  obtain ⟨tree, derived, -, -, known, -⟩ :=
    (evaluate_eq_ok_iff_derives _ _ plain).mp valued
  exact ⟨plain, tree, derived, known⟩

end ForeignGlue.Expression
