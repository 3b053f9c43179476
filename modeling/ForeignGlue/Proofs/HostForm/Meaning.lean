/-
**What the host form of a bound means.**

The generator evaluates bounds itself and also writes them out for C. `hostForm_evaluates` compares
the two: the host form of a bound that has a value, its numbers being decimal to C, has the same
value in C exactly if the bound is spliceable and no part that C computes in `int` leaves 32 bits.

* `value_hosted`: the typed value of the expression that a tree stands for.
* `Accepted.legible`, `Accepted.rendered`: what a bound that has a value looks like.
* `Accepted.evaluates_iff`: C reads the host form as that expression, or not at all.
-/

import ForeignGlue.Proofs.HostForm.Reading
import ForeignGlue.Proofs.Outcome
import ForeignGlue.Proofs.ScalarIndex.Lookup

namespace ForeignGlue

open ForeignGlue.CExpression
open ForeignGlue.Expression
open ForeignGlue.Text

/-! ### Typed values -/

namespace Expression.Tree

/-- Whether C computes a tree in `int`: it has no names, and its numbers are below two to the
31st. -/
def isInt : Tree → Bool
  | .number digits => Nat.ofDigitChars 10 digits 0 < 0x80000000
  | .negated operand => operand.isInt
  | .binary _ left right => left.isInt && right.isInt
  | .name _ | .missing | .unclosed _ => false

/-- The type in which C computes a tree. -/
def ctype (tree : Tree) : CType :=
  if tree.isInt then .int else .long

/-- Whether the result of a tree is in its type. Trees without names need no values for them. -/
def staysInt (tree : Tree) : Bool :=
  !tree.isInt ||
    match tree.eval fun _ => none with
    | .ok value => CType.int.holds value
    | .error _ => true

/-- Whether every part that C computes in `int` stays there. -/
def intsFit : Tree → Bool
  | .negated operand => operand.intsFit && (Tree.negated operand).staysInt
  | .binary operator left right =>
    left.intsFit && right.intsFit && (Tree.binary operator left right).staysInt
  | .number _ | .name _ | .missing | .unclosed _ => true

theorem checked_eq_ok_iff {value result : Int} :
    checked value = .ok result ↔ fitsWord value ∧ value = result := by
  unfold checked
  split <;> simp_all

theorem apply_eq_ok_iff {operator : Operator} {left right result : Int} :
    operator.apply left right = .ok result ↔ fitsWord result ∧
      match operator with
      | .add => left + right = result
      | .sub => left - right = result
      | .mul => left * right = result
      | .div => right ≠ 0 ∧ left.tdiv right = result := by
  cases operator <;> simp only [Operator.apply]
  case div =>
    split <;> rename_i zero
    · simp [zero]
    · rw [checked_eq_ok_iff]
      constructor
      · rintro ⟨fits, rfl⟩
        exact ⟨fits, zero, rfl⟩
      · rintro ⟨fits, -, rfl⟩
        exact ⟨fits, rfl⟩
  all_goals
    rw [checked_eq_ok_iff]
    constructor <;> rintro ⟨fits, rfl⟩ <;> exact ⟨fits, rfl⟩

variable {lookup : String → Option Int} {tree : Tree} {value : Int}

/-- Every value fits a word. -/
theorem fitsWord_of_eval (valued : tree.eval lookup = .ok value) : fitsWord value := by
  cases tree with
  | number digits =>
      obtain ⟨-, rfl, small⟩ := literalValue_eq_ok valued
      simp only [fitsWord, Bool.and_eq_true, decide_eq_true_eq]
      omega
  | name label =>
      rw [eval] at valued
      split at valued
      · obtain ⟨fits, rfl⟩ := checked_eq_ok_iff.mp valued
        exact fits
      · cases valued
  | negated operand =>
      obtain ⟨inner, -, negated⟩ := bind_eq_ok_iff.mp valued
      obtain ⟨fits, rfl⟩ := checked_eq_ok_iff.mp negated
      exact fits
  | binary operator left right =>
      obtain ⟨leftValue, -, valued⟩ := bind_eq_ok_iff.mp valued
      obtain ⟨rightValue, -, applied⟩ := bind_eq_ok_iff.mp valued
      exact (apply_eq_ok_iff.mp applied).1
  | missing => cases valued
  | unclosed inner =>
      obtain ⟨_, -, failed⟩ := bind_eq_ok_iff.mp valued
      cases failed

/-- What C computes in `int` has no names. -/
theorem eval_of_isInt (narrow : tree.isInt) (other : String → Option Int) :
    tree.eval other = tree.eval lookup := by
  induction tree with
  | number digits => rfl
  | negated operand ih => rw [eval, eval, ih narrow]
  | binary operator left right leftIh rightIh =>
      obtain ⟨leftNarrow, rightNarrow⟩ := Bool.and_eq_true_iff.mp narrow
      rw [eval, eval, leftIh leftNarrow, rightIh rightNarrow]
  | name label => cases narrow
  | missing => cases narrow
  | unclosed inner => cases narrow

/-- The result of an operation, as C sees it. -/
theorem result_ctype (valued : tree.eval lookup = .ok value) :
    tree.ctype.result value = if tree.staysInt then some ⟨tree.ctype, value⟩ else none := by
  unfold ctype staysInt
  cases narrow : tree.isInt with
  | true =>
      rw [eval_of_isInt narrow, valued]
      rfl
  | false =>
      have holds := (long_holds_iff value).mpr (fitsWord_of_eval valued)
      simp [CType.result, CType.isSigned, holds]

theorem common_ctype (operator : Operator) (left right : Tree) :
    left.ctype.common right.ctype = (Tree.binary operator left right).ctype := by
  unfold ctype
  rw [isInt]
  cases left.isInt <;> cases right.isInt <;> rfl

theorem convert_ctype : tree.ctype.convert value = value := by
  unfold ctype
  cases tree.isInt <;> rfl

/-- An operator, applied in the type that C computes the whole tree in. -/
theorem apply_ctype {operator : Operator} {left right : Int}
    (valued : tree.eval lookup = .ok value) (applied : operator.apply left right = .ok value) :
    tree.ctype.apply operator left right =
      if tree.staysInt then some ⟨tree.ctype, value⟩ else none := by
  rw [← result_ctype valued]
  obtain ⟨-, result⟩ := apply_eq_ok_iff.mp applied
  cases operator with
  | div => rw [CType.apply, if_neg result.1, result.2]
  | add => exact congrArg tree.ctype.result result
  | sub => exact congrArg tree.ctype.result result
  | mul => exact congrArg tree.ctype.result result

end Expression.Tree

/-- The values of names, given those of all slots. -/
def Scope.slotValue (scope : Scope) (values : String → Nat → Int64) (name : String) : Option Int :=
  match scope.resolve name with
  | .ok slot => some (values (scope.reference slot).1 (scope.reference slot).2).toInt
  | .error _ => none

/-- **The typed value of the expression that a tree stands for.** -/
theorem value_hosted {scope : Scope} {values : String → Nat → Int64} {tree : Tree} {x : CExpr}
    {value : Int} (hosted : tree.hosted? scope.place = some x)
    (valued : tree.eval (scope.slotValue values) = .ok value)
    (plain : ∀ digits ∈ x.literals, digits ≠ [] ∧ isPlainLiteral digits) :
    x.value values = if tree.intsFit then some ⟨tree.ctype, value⟩ else none := by
  induction tree generalizing x value with
  | number digits =>
      obtain rfl := Option.some.inj hosted
      obtain ⟨written, isPlain⟩ := plain digits List.mem_cons_self
      obtain ⟨-, spelled, -⟩ := literalValue_eq_ok valued
      have typed : decimalType value = (Tree.number digits).ctype := by
        rw [spelled, decimalType, Tree.ctype, Tree.isInt]
        simp only [decide_eq_true_eq]
        split <;> split <;> first | rfl | omega
      rw [CExpr.value, literal?_of_literalValue written isPlain valued, typed]
      rfl
  | name label =>
      obtain rfl := Option.some.inj hosted
      rw [Tree.eval] at valued
      cases resolved : scope.resolve label with
      | error fault => simp [Scope.slotValue, resolved] at valued
      | ok slot =>
          have found : scope.slotValue values label =
              some (values (scope.place label).1 (scope.place label).2).toInt := by
            simp [Scope.slotValue, Scope.place, resolved]
          rw [found] at valued
          obtain ⟨-, rfl⟩ := Tree.checked_eq_ok_iff.mp valued
          rfl
  | negated operand ih =>
      obtain ⟨y, operandHosted, rfl⟩ := Option.map_eq_some_iff.mp hosted
      obtain ⟨inner, operandValued, negated⟩ := bind_eq_ok_iff.mp valued
      have here := Tree.result_ctype valued
      rw [CExpr.value, ih operandHosted operandValued plain, Tree.intsFit]
      cases operand.intsFit with
      | false => rfl
      | true =>
          obtain ⟨-, rfl⟩ := Tree.checked_eq_ok_iff.mp negated
          exact here
  | binary operator left right leftIh rightIh =>
      obtain ⟨leftExpr, leftHosted, hosted⟩ := Option.bind_eq_some_iff.mp hosted
      obtain ⟨rightExpr, rightHosted, rfl⟩ := Option.map_eq_some_iff.mp hosted
      obtain ⟨leftValue, leftValued, rightStep⟩ := bind_eq_ok_iff.mp valued
      obtain ⟨rightValue, rightValued, applied⟩ := bind_eq_ok_iff.mp rightStep
      have here := Tree.apply_ctype valued applied
      rw [CExpr.value,
        leftIh leftHosted leftValued fun digits member => plain digits (List.mem_append_left _ member),
        rightIh rightHosted rightValued fun digits member =>
          plain digits (List.mem_append_right _ member), Tree.intsFit]
      cases left.intsFit with
      | false => rfl
      | true =>
          cases right.intsFit with
          | false => rfl
          | true =>
              simp only [if_true, Option.bind_eq_bind, Option.bind_some, Tree.common_ctype operator,
                Tree.convert_ctype, Bool.true_and]
              exact here
  | missing => cases hosted
  | unclosed inner => cases hosted

/-! ### Bounds that have a value -/

/-- The table names of a scope are identifiers. -/
def Scope.NamesTables (scope : Scope) : Prop :=
  IsIdentifier scope.module.toList ∧
    ∀ index ∈ scope.externals, IsIdentifier index.module.toList

instance (scope : Scope) : Decidable scope.NamesTables :=
  inferInstanceAs (Decidable (_ ∧ _))

theorem isIdentifier_append {first second : List Char} (isIdentifier : IsIdentifier first)
    (inside : second.all isNameChar) : IsIdentifier (first ++ second) := by
  obtain ⟨c, cs, rfl, start, more⟩ := isIdentifier
  exact ⟨c, cs ++ second, rfl, start, by rw [List.all_append, more, inside]; rfl⟩

/-- A name that resolves is in a table whose name is an identifier. -/
theorem isIdentifier_place {scope : Scope} (tables : scope.NamesTables) {label : String} {slot : Slot}
    (resolved : scope.resolve label = .ok slot) : IsIdentifier (scope.place label).1.toList := by
  have suffixed (module : String) (isIdentifier : IsIdentifier module.toList) :
      IsIdentifier (module ++ "_fscalars").toList := by
    rw [String.toList_append]
    exact isIdentifier_append isIdentifier (by decide)
  rw [Scope.place, resolved]
  cases slot with
  | own slot => exact suffixed _ tables.1
  | external index slot =>
      exact suffixed _ (tables.2 index (Scope.mem_of_resolve_eq_external resolved).1)

theorem readTree_of_evaluate {expression : String} {lookup : String → Option Int} {value : Int}
    (valued : evaluate expression lookup = .ok value) :
    (readTree expression).1.eval lookup = .ok value ∧ (readTree expression).2 = [] := by
  unfold evaluate at valued
  split at valued
  · obtain ⟨inner, read, finished⟩ := bind_eq_ok_iff.mp (mapError_eq_ok_iff.mp valued)
    split at finished
    · next done =>
        rw [← Except.ok.inj finished]
        exact ⟨read, List.isEmpty_iff.mp done⟩
    · cases finished
  · cases valued

/-- A tree that has a value shows no mistake, and its numbers are of digits. -/
theorem hosted_of_eval {lookup : String → Option Int} {tree : Tree} {value : Int}
    (valued : tree.eval lookup = .ok value) (place : String → String × Nat) :
    ∃ x, tree.hosted? place = some x ∧ ∀ digits ∈ x.literals, digits.all Char.isDigit := by
  induction tree generalizing value with
  | number digits =>
      refine ⟨.literal digits, rfl, fun other member => ?_⟩
      rw [List.mem_singleton.mp member]
      exact (literalValue_eq_ok valued).1
  | name label => exact ⟨.slot _ _, rfl, fun digits member => by cases member⟩
  | negated operand ih =>
      obtain ⟨_, operandValued, -⟩ := bind_eq_ok_iff.mp valued
      obtain ⟨x, hosted, decimal⟩ := ih operandValued
      exact ⟨.negated x, by rw [Tree.hosted?, hosted]; rfl, decimal⟩
  | binary operator left right leftIh rightIh =>
      obtain ⟨_, leftValued, valued⟩ := bind_eq_ok_iff.mp valued
      obtain ⟨_, rightValued, -⟩ := bind_eq_ok_iff.mp valued
      obtain ⟨x, leftHosted, leftDecimal⟩ := leftIh leftValued
      obtain ⟨y, rightHosted, rightDecimal⟩ := rightIh rightValued
      refine ⟨.binary operator x y, Takes.hosted_binary operator leftHosted rightHosted, ?_⟩
      intro digits member
      rcases List.mem_append.mp member with member | member
      · exact leftDecimal digits member
      · exact rightDecimal digits member
  | missing => cases valued
  | unclosed inner =>
      obtain ⟨_, -, failed⟩ := bind_eq_ok_iff.mp valued
      cases failed

/-- Neighbours that a filter keeps are neighbours in what it leaves. -/
theorem isChain_of_filter {α : Type} {relation : α → α → Prop} {keep : α → Bool} {items : List α}
    (chain : (items.filter keep).IsChain relation) :
    items.IsChain fun first second => keep first → keep second → relation first second := by
  induction items with
  | nil => exact List.isChain_nil
  | cons first items ih =>
      cases kept : keep first with
      | false =>
          rw [List.filter_cons_of_neg (by simp [kept])] at chain
          refine List.isChain_cons.mpr ⟨fun second _ isKept => ?_, ih chain⟩
          rw [kept] at isKept
          cases isKept
      | true =>
          rw [List.filter_cons_of_pos kept] at chain
          refine List.isChain_cons.mpr ⟨fun second isSecond _ secondKept => ?_, ih chain.tail⟩
          cases items with
          | nil => cases isSecond
          | cons other items =>
              obtain rfl := Option.some.inj isSecond
              rw [List.filter_cons_of_pos secondKept] at chain
              exact (List.isChain_cons_cons.mp chain).1

/-- The constants of the host form are the numbers of the bound. -/
theorem mem_literals_iff {place : String → String × Nat} {expression : String} {x : CExpr}
    {digits : List Char}
    (derived : Derives .additive ((lexemes expression).map (Lexeme.terminal place)) x) :
    digits ∈ x.literals ↔ .number digits ∈ marks expression := by
  rw [derives_literals derived, lexemes_eq_filter_marks, List.mem_filterMap]
  constructor
  · rintro ⟨terminal, member, isLiteral⟩
    obtain ⟨mark, listed, rfl⟩ := List.mem_map.mp member
    cases mark with
    | number other =>
        obtain rfl := Option.some.inj isLiteral
        exact (List.mem_filter.mp listed).1
    | name label => cases isLiteral
    | symbol c => cases isLiteral
  · intro listed
    exact ⟨.literal digits, List.mem_map.mpr ⟨.number digits, List.mem_filter.mpr ⟨listed, rfl⟩, rfl⟩,
      rfl⟩

/-- The tokens of the marks are those of the lexemes, since a blank has none. -/
theorem flatMap_tokens (place : String → String × Nat) (expression : String) :
    (marks expression).flatMap (Lexeme.tokens place) =
      ((lexemes expression).map (Lexeme.terminal place)).flatMap Terminal.tokens := by
  rw [lexemes_eq_filter_marks, List.flatMap_map]
  induction marks expression with
  | nil => rfl
  | cons mark marks ih =>
      rw [List.flatMap_cons, ih]
      cases seen : mark.isBlank with
      | true => simp [Lexeme.tokens, seen]
      | false => simp [Lexeme.tokens, seen]

/-- Marks whose operands and operators stand in turn are legible. -/
theorem legible_of_wellJoined {place : String → String × Nat} {marks : List Lexeme}
    (joined : WellJoined ((marks.filter fun mark => !mark.isBlank).map (Lexeme.terminal place)))
    (decimal : ∀ digits, .number digits ∈ marks → digits ≠ [] ∧ digits.all Char.isDigit)
    (named : ∀ label, .name label ∈ marks →
      IsIdentifier label.toList ∧ IsIdentifier (place label).1.toList) : Legible place marks := by
  refine ⟨?_, ?_, decimal, named⟩
  · have chain := joined.chain
    rw [List.isChain_map] at chain
    refine (isChain_of_filter chain).imp fun first second related firstSeen secondSeen => ?_
    exact related (by rw [firstSeen]; rfl) (by rw [secondSeen]; rfl)
  · intro mark listed seen
    refine joined.arithmetic _ (List.mem_map_of_mem ?_)
    exact List.mem_filter.mpr ⟨listed, by rw [seen]; rfl⟩

theorem Legible.rendered {scope : Scope} {marks : List Lexeme} (legible : Legible scope.place marks)
    (resolves : ∀ label, .name label ∈ marks → ∃ slot, scope.resolve label = .ok slot) :
    Rendered scope marks := by
  refine ⟨resolves, fun digits listed => (legible.decimal digits listed).2, ?_⟩
  intro c listed
  rw [← Bool.not_eq_true]
  intro start
  have nameChar := isNameChar_of_isNameStart start
  rw [legible.not_isNameChar_of_mem listed] at nameChar
  cases nameChar

section Valued

variable {scope : Scope} {values : String → Nat → Int64} {expression : String} {value : Int}

/-- What is known of a bound that has a value. -/
structure Accepted (scope : Scope) (values : String → Nat → Int64) (expression : String)
    (value : Int) : Prop where
  tables : scope.NamesTables
  resolves : ∀ name ∈ names expression, ∃ slot, scope.resolve name = .ok slot
  valued : evaluate expression (scope.slotValue values) = .ok value

namespace Accepted

variable (accepted : Accepted scope values expression value)

include accepted

/-- The expression that the tree of the bound stands for, which the productions derive. -/
theorem exists_derives : ∃ x, (readTree expression).1.hosted? scope.place = some x ∧
    Derives .additive ((lexemes expression).map (Lexeme.terminal scope.place)) x ∧
    ∀ digits ∈ x.literals, digits.all Char.isDigit := by
  obtain ⟨read, finished⟩ := readTree_of_evaluate accepted.valued
  obtain ⟨x, hosted, decimal⟩ := hosted_of_eval read scope.place
  exact ⟨x, hosted, derives_lexemes_iff.mpr ⟨hosted, finished⟩, decimal⟩

theorem legible : Legible scope.place (marks expression) := by
  obtain ⟨x, -, derived, decimal⟩ := accepted.exists_derives
  have joined := derives_wellJoined derived
  rw [lexemes_eq_filter_marks] at joined
  refine legible_of_wellJoined joined ?_ ?_
  · intro digits listed
    exact ⟨mem_marks_number listed, decimal digits ((mem_literals_iff derived).mpr listed)⟩
  · intro label listed
    obtain ⟨isIdentifier, mentioned⟩ := mem_marks_name listed
    obtain ⟨slot, resolved⟩ := accepted.resolves label mentioned
    exact ⟨isIdentifier, isIdentifier_place accepted.tables resolved⟩

theorem rendered : Rendered scope (marks expression) := by
  refine accepted.legible.rendered fun label listed => ?_
  exact accepted.resolves label (mem_marks_name listed).2

/-- **C reads the host form as the expression that the bound was read as, or not at all.** -/
theorem evaluates_iff {text : String}
    (spelled : text.toList = (marks expression).flatMap (Lexeme.hostChars scope.place)) (result : Int) :
    Evaluates values text result ↔ Spliceable expression ∧
      ∃ x type, (readTree expression).1.hosted? scope.place = some x ∧
        x.value values = some ⟨type, result⟩ := by
  obtain ⟨x, hosted, derived, -⟩ := accepted.exists_derives
  have legible := accepted.legible
  have whole : Spliceable expression ↔ SpliceableChars ((marks expression).flatMap Lexeme.chars) := by
    rw [flatMap_chars_marks]
    rfl
  have asTerminals := terminals_tokens (derives_wellJoined derived).arithmetic
  rw [whole, Evaluates, spelled]
  constructor
  · rintro ⟨tokens, ts, y, type, cut, read, isRead, valued⟩
    by_cases spliceable : SpliceableChars ((marks expression).flatMap Lexeme.chars)
    · rw [lex_hostChars legible spliceable, flatMap_tokens] at cut
      obtain rfl := Option.some.inj cut
      obtain rfl := Option.some.inj (asTerminals.symm.trans read)
      exact ⟨spliceable, y, type, (derives_lexemes_iff.mp isRead).1, valued⟩
    · obtain ⟨sign, doubled⟩ := lex_unspliceable legible spliceable cut
      rw [terminals_doubled doubled] at read
      cases read
  · rintro ⟨spliceable, y, type, isHosted, valued⟩
    obtain rfl := Option.some.inj (hosted.symm.trans isHosted)
    refine ⟨_, _, x, type, lex_hostChars legible spliceable, ?_, derived, valued⟩
    rw [flatMap_tokens]
    exact asTerminals

end Accepted

end Valued

/-! ### The host form and the evaluator -/

/-- Whether C reads a lexeme as the decimal number it spells, if it is one. -/
def Expression.Lexeme.isPlain : Lexeme → Bool
  | .number digits => isPlainLiteral digits
  | .name _ | .symbol _ => true

/-- **The host form of a bound that has a value.** C gives it a value exactly if the bound is
spliceable and the expression that it is read as has one. If its numbers are decimal to C, that is
so exactly if every part that C computes in `int` stays there, and then both values are equal. -/
theorem hostForm_evaluates {scope : Scope} {values : String → Nat → Int64} {expression : String}
    {value : Int} (tables : scope.NamesTables)
    (resolves : ∀ name ∈ names expression, ∃ slot, scope.resolve name = .ok slot)
    (valued : evaluate expression (scope.slotValue values) = .ok value) :
    ∃ text, scope.hostForm .none expression = .ok text ∧
      (∀ result, Evaluates values text result ↔ Spliceable expression ∧
        ∃ x type, (readTree expression).1.hosted? scope.place = some x ∧
          x.value values = some ⟨type, result⟩) ∧
      ((∀ lexeme ∈ lexemes expression, lexeme.isPlain) →
        ∀ result, Evaluates values text result ↔
          result = value ∧ Spliceable expression ∧ (readTree expression).1.intsFit) := by
  have accepted : Accepted scope values expression value := ⟨tables, resolves, valued⟩
  obtain ⟨text, rendered, spelled⟩ := hostForm_eq accepted.rendered
  refine ⟨text, rendered, accepted.evaluates_iff spelled, fun plain result => ?_⟩
  obtain ⟨x, hosted, derived, -⟩ := accepted.exists_derives
  have known : ∀ digits ∈ x.literals, digits ≠ [] ∧ isPlainLiteral digits := by
    intro digits member
    have listed := (mem_literals_iff derived).mp member
    refine ⟨mem_marks_number listed, plain (.number digits) ?_⟩
    rw [lexemes_eq_filter_marks]
    exact List.mem_filter.mpr ⟨listed, rfl⟩
  have typed := value_hosted hosted (readTree_of_evaluate valued).1 known
  rw [accepted.evaluates_iff spelled]
  constructor
  · rintro ⟨spliceable, y, type, isHosted, evaluated⟩
    obtain rfl := Option.some.inj (hosted.symm.trans isHosted)
    rw [typed] at evaluated
    split at evaluated
    · next fits => exact ⟨(CValue.mk.inj (Option.some.inj evaluated)).2.symm, spliceable, fits⟩
    · cases evaluated
  · rintro ⟨rfl, spliceable, fits⟩
    exact ⟨spliceable, x, _, hosted, by rw [typed, if_pos fits]⟩

/-- The scalar of a module that others build on. -/
def sampleIndex : ScalarIndex where
  module := "base"
  slots := SlotMap.empty.insert "kmax" 3
  scalars := []

/-- Two scalars of one module, and one of a module that it builds on. -/
def sampleScope : Scope where
  module := "wxy"
  dictionary := (SlotMap.empty.insert "n" 0).insert "m" 1
  scalars := []
  externals := [sampleIndex]

/-- The values of the three scalars. -/
def sampleValues (table : String) (index : Nat) : Int64 :=
  if table = "base_fscalars" then 12 else if index = 0 then 7 else -2

theorem hostForm_evaluates_sample :
    evaluate "(n + 1)*kmax - 10/ -m" (sampleScope.slotValue sampleValues) = .ok 91 ∧
    ∃ text, sampleScope.hostForm .none "(n + 1)*kmax - 10/ -m" = .ok text ∧
      Evaluates sampleValues text 91 := by
  have tables : sampleScope.NamesTables := by
    refine ⟨⟨'w', ['x', 'y'], by decide, by decide, by decide⟩, fun index member => ?_⟩
    rw [List.mem_singleton.mp member]
    exact ⟨'b', ['a', 's', 'e'], by decide, by decide, by decide⟩
  have resolves : ∀ name ∈ names "(n + 1)*kmax - 10/ -m", ∃ slot,
      sampleScope.resolve name = .ok slot := by
    have known : names "(n + 1)*kmax - 10/ -m" = ["n", "kmax", "m"] := by decide +kernel
    rw [known]
    intro name member
    simp only [List.mem_cons, List.not_mem_nil, or_false] at member
    rcases member with rfl | rfl | rfl
    · exact ⟨.own 0, by decide +kernel⟩
    · exact ⟨.external sampleIndex 3, by decide +kernel⟩
    · exact ⟨.own 1, by decide +kernel⟩
  have valued : evaluate "(n + 1)*kmax - 10/ -m" (sampleScope.slotValue sampleValues) = .ok 91 := by
    decide +kernel
  have plain : ∀ lexeme ∈ lexemes "(n + 1)*kmax - 10/ -m", lexeme.isPlain := by decide +kernel
  obtain ⟨text, rendered, -, evaluates⟩ := hostForm_evaluates tables resolves valued
  exact ⟨valued, text, rendered, (evaluates plain 91).mpr ⟨rfl, by decide +kernel, by decide +kernel⟩⟩

/-- **A quotient of two names opens a comment.** The bound has a value, and its host form has none. -/
theorem hostForm_quotient_unread :
    evaluate "n/m" (sampleScope.slotValue sampleValues) = .ok (-3) ∧
    sampleScope.hostForm .none "n/m" =
      .ok "*(long *)wxy_fscalars[0].data/*(long *)wxy_fscalars[1].data" ∧
    ∀ result, ¬ Evaluates sampleValues
      "*(long *)wxy_fscalars[0].data/*(long *)wxy_fscalars[1].data" result := by
  refine ⟨by decide +kernel, by decide +kernel, ?_⟩
  rintro result ⟨tokens, ts, x, type, cut, -⟩
  have unclosed : lex "*(long *)wxy_fscalars[0].data/*(long *)wxy_fscalars[1].data".toList = none := by
    decide +kernel
  rw [unclosed] at cut
  cases cut

end ForeignGlue
