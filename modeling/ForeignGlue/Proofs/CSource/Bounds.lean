/-
**Bounds in C source.**

The host form of a bound stands between parentheses wherever it is written. If the bound is an
expression of decimal numbers, names, the four operations and parentheses, and can be spliced, then C
reads the host form as that expression, its names being slots.

* `Derives.reads`: what the productions of integer expressions derive is what C source reads.
* `Legible.closed_hostChars`: the terminals of a host form that a parenthesis closes.
* `Scope.encloses_pieces`: C reads the host form of a bound as `Scope.cExpression?` says.
* `Encloses.extent`: the text of an extent, from the texts of its two bounds.
-/

import ForeignGlue.Proofs.CSource.Syntax
import ForeignGlue.Proofs.Generation.Demand
import ForeignGlue.Proofs.HostForm.Meaning
import Mathlib.Data.List.Infix

namespace ForeignGlue.CSource

open ForeignGlue.CExpression (CExpr Derives Level WellJoined all_isDigit_toDigits arithmeticSymbols
  derives_wellJoined extenders firstPiece? firstPiece?_symbol isCSpace symbols)
open ForeignGlue.Expression
open ForeignGlue.Text

/-! ### Integer expressions as expressions of C source -/

/-- The expression that reads a slot of a table. -/
def slotExpr (table : String) (index : Nat) : Expr :=
  .pointed (.pointerCast "long"
    (.field (.element (.name table) (.number (Nat.toDigits 10 index))) "data"))

/-- An integer expression over slots. -/
def Expr.ofC : CExpr → Expr
  | .literal digits => .number digits
  | .slot table index => slotExpr table index
  | .negated operand => .negated (ofC operand)
  | .binary operator left right => .binary (.arithmetic operator) (ofC left) (ofC right)

/-- The terminals of a slot reference. -/
def slotTerminals (table : String) (index : Nat) : List Terminal :=
  [.mark .star, .mark .opening, .typeName "long", .mark .star, .mark .closing, .name table,
   .mark .openingBracket, .number (Nat.toDigits 10 index), .mark .closingBracket, .mark .dot,
   .name "data"]

/-- The terminals of a terminal of an integer expression. -/
def expand : CExpression.Terminal → List Terminal
  | .literal digits => [.number digits]
  | .slot table index => slotTerminals table index
  | .symbol c => (markTexts.lookup [c]).toList.map .mark

/-- What C source reads where the productions derive an expression of a level: an operand, or
operands to which the operators of looser levels are added. -/
def ReadsAt : Level → List Terminal → Expr → Prop
  | .unary, ts, x => ∀ rest, endsSuffixes rest → Reads .operand (ts ++ rest) x rest
  | .multiplicative, ts, x => ∀ level ≤ 5, ∀ rest y after, endsSuffixes rest →
      Reads (.operators level x) rest y after → Reads (.expression level) (ts ++ rest) y after
  | .additive, ts, x => ∀ level ≤ 4, ∀ rest y after, endsSuffixes rest → endsOperators 5 rest →
      Reads (.operators level x) rest y after → Reads (.expression level) (ts ++ rest) y after

namespace ReadsAt

variable {ts us : List Terminal} {x y : Expr}

/-- No operator binds tighter than the multiplicative ones. -/
theorem endsOperators_six (rest : List Terminal) : endsOperators 6 rest = true := by
  have bounded : ∀ operator : BinaryOperator, operator.level ≤ 5 := by
    intro operator
    cases operator with
    | arithmetic operator => cases operator <;> decide
    | _ => decide
  unfold endsOperators
  cases rest.head?.bind operator? with
  | none => rfl
  | some operator =>
      have below := bounded operator
      simp only [Option.any_some, Bool.not_eq_true', decide_eq_false_iff_not]
      omega

/-- An operator is no suffix. -/
theorem endsSuffixes_operator {t : Terminal} {operator : BinaryOperator}
    (found : operator? t = some operator) (rest : List Terminal) : endsSuffixes (t :: rest) = true := by
  unfold endsSuffixes
  split
  · next same =>
      rw [(List.cons.inj same).1] at found
      cases found
  · next same =>
      rw [(List.cons.inj same).1] at found
      cases found
  · next same =>
      rw [(List.cons.inj same).1] at found
      cases found
  · rfl

theorem single (operand : ReadsAt .unary ts x) : ReadsAt .multiplicative ts x := by
  intro level _ rest y after ends more
  exact .expression (operand rest ends) more

theorem product (operand : ReadsAt .multiplicative ts x) : ReadsAt .additive ts x := by
  intro level small rest y after ends _ more
  exact operand level (by omega) rest y after ends more

/-- A multiplicative operator after an operand. -/
theorem factor {mark : Mark} {operator : Operator} (left : ReadsAt .multiplicative ts x)
    (right : ReadsAt .unary us y) (found : operator? (.mark mark) = some (.arithmetic operator))
    (tight : (BinaryOperator.arithmetic operator).level = 5) :
    ReadsAt .multiplicative (ts ++ .mark mark :: us) (.binary (.arithmetic operator) x y) := by
  intro level small rest z after ends more
  have operand : Reads (.expression 6) (us ++ rest) y rest :=
    .expression (right rest ends) (.operatorsEnd (endsOperators_six rest))
  rw [List.append_assoc, List.cons_append]
  refine left level small _ z after (endsSuffixes_operator found _) (.operator found (by omega) ?_ more)
  rw [tight]
  exact operand

/-- An additive operator after an operand. -/
theorem summand {mark : Mark} {operator : Operator} (left : ReadsAt .additive ts x)
    (right : ReadsAt .multiplicative us y)
    (found : operator? (.mark mark) = some (.arithmetic operator))
    (loose : (BinaryOperator.arithmetic operator).level = 4) :
    ReadsAt .additive (ts ++ .mark mark :: us) (.binary (.arithmetic operator) x y) := by
  intro level small rest z after ends noFactor more
  have notTight : endsOperators 5 (.mark mark :: (us ++ rest)) = true := by
    simp [endsOperators, found, loose]
  have operand : Reads (.expression 5) (us ++ rest) y rest :=
    right 5 (by omega) rest y rest ends (.operatorsEnd noFactor)
  rw [List.append_assoc, List.cons_append]
  refine left level small _ z after (endsSuffixes_operator found _) notTight
    (.operator found (by omega) ?_ more)
  rw [loose]
  exact operand

/-- An expression between parentheses. -/
theorem enclosed (inner : ReadsAt .additive ts x) (rest : List Terminal) :
    Reads (.expression 0) (ts ++ .mark .closing :: rest) x (.mark .closing :: rest) :=
  inner 0 (by omega) _ x _ rfl rfl (.operatorsEnd rfl)

theorem parenthesized (inner : ∀ rest,
    Reads (.expression 0) (ts ++ .mark .closing :: rest) x (.mark .closing :: rest)) :
    ReadsAt .unary (.mark .opening :: (ts ++ [.mark .closing])) x := by
  intro rest ends
  rw [List.cons_append, List.append_assoc, List.singleton_append]
  exact .parenthesized (inner rest) (.suffixesEnd ends)

theorem number (digits : List Char) : ReadsAt .unary [.number digits] (.number digits) := by
  intro rest ends
  exact .number (.suffixesEnd ends)

theorem slot (table : String) (index : Nat) :
    ReadsAt .unary (slotTerminals table index) (slotExpr table index) := by
  intro rest ends
  have position : Reads (.expression 0)
      (.number (Nat.toDigits 10 index) :: .mark .closingBracket :: .mark .dot :: .name "data" :: rest)
      (.number (Nat.toDigits 10 index))
      (.mark .closingBracket :: .mark .dot :: .name "data" :: rest) :=
    .expression (.number (.suffixesEnd rfl)) (.operatorsEnd rfl)
  exact .pointed (.pointerCast (.name (.element position (.field (.suffixesEnd ends)))))

end ReadsAt

/-- **What the productions derive is what C source reads.** -/
theorem Derives.reads {level : Level} {ts : List CExpression.Terminal} {x : CExpr}
    (derived : Derives level ts x) : ReadsAt level (ts.flatMap expand) (.ofC x) := by
  induction derived with
  | literal digits => exact .number digits
  | slot table index => exact .slot table index
  | parenthesized _ inner =>
      rw [List.flatMap_cons, List.flatMap_append]
      exact .parenthesized inner.enclosed
  | negated _ operand =>
      intro rest ends
      exact .negated (operand rest ends)
  | promoted _ operand =>
      intro rest ends
      exact .promoted (operand rest ends)
  | single _ operand => exact operand.single
  | multiplied _ _ left right =>
      rw [List.flatMap_append, List.flatMap_cons]
      exact left.factor right rfl rfl
  | divided _ _ left right =>
      rw [List.flatMap_append, List.flatMap_cons]
      exact left.factor right rfl rfl
  | product _ operand => exact operand.product
  | added _ _ left right =>
      rw [List.flatMap_append, List.flatMap_cons]
      exact left.summand right rfl rfl
  | subtracted _ _ left right =>
      rw [List.flatMap_append, List.flatMap_cons]
      exact left.summand right rfl rfl

/-! ### How a host form is cut -/

/-- An identifier with a part that no reserved word has. -/
theorem isFree_of_infix {word part : List Char} (isIdentifier : IsIdentifier word)
    (inside : part <:+: word) (rare : reservedWords.all fun entry => !decide (part <:+: entry.1)) :
    IsFree word := by
  refine ⟨isIdentifier, List.lookup_eq_none_iff.mpr fun entry member => ?_⟩
  have other := List.all_eq_true.mp rare entry member
  by_contra same
  have equal : word = entry.1 := by simpa using same
  rw [← equal, decide_eq_true inside] at other
  cases other

theorem terminals_symbol {c : Char} {mark : Mark} {rest : List Char} (symbol : c ∈ symbols)
    (stops : ∀ d ∈ rest.head?, d ∉ extenders c)
    (noNumber : c = '.' → ∀ d ∈ rest.head?, d.isDigit = false)
    (found : markTexts.lookup [c] = some mark) :
    terminals (c :: rest) = (terminals rest).map (.mark mark :: ·) := by
  have known : terminal? (.punctuator [c]) = some (.mark mark) := by
    rw [terminal?, found]
    rfl
  have first := piece?_of_firstPiece? (firstPiece?_symbol symbol stops noNumber) known
  exact terminals_append (List.cons_ne_nil c []) first

theorem terminals_space {c : Char} (space : isCSpace c) (rest : List Char) :
    terminals (c :: rest) = terminals rest := by
  have noQuote : c ≠ '"' := by
    rintro rfl
    cases space
  have first : piece? ([c] ++ rest) = some (none, [c].length) := by
    simp [piece?, noQuote, firstPiece?, space]
  have cut := terminals_append (List.cons_ne_nil c []) first
  rw [List.singleton_append] at cut
  rw [cut]
  exact Option.map_id_apply

/-- A slot reference that nothing is stuck to. -/
theorem terminals_slot {table : String} {index : Nat} {rest : List Char} (free : IsFree table.toList)
    (stops : ∀ d ∈ rest.head?, isNameChar d = false) :
    terminals (referenceChars (table, index) ++ rest) =
      (terminals rest).map (slotTerminals table index ++ ·) := by
  have decimal := all_isDigit_toDigits index
  have opening : Closed "*(long *)".toList
      [.mark .star, .mark .opening, .typeName "long", .mark .star, .mark .closing] :=
    closed_of_settled (by decide)
  have bracket : Closed "[".toList [.mark .openingBracket] := closed_of_settled (by decide)
  have bracketToo : Closed "]".toList [.mark .closingBracket] := closed_of_settled (by decide)
  have member : IsFree "data".toList := ⟨⟨'d', ['a', 't', 'a'], rfl, by decide, by decide⟩, by decide⟩
  have shape : referenceChars (table, index) ++ rest =
      "*(long *)".toList ++ (table.toList ++ ("[".toList ++ (Nat.toDigits 10 index ++
        ("]".toList ++ ('.' :: ("data".toList ++ rest)))))) := by
    simp [referenceChars]
  rw [shape, opening, terminals_word free (by simp; decide), bracket,
    terminals_number Nat.toDigits_ne_nil decimal (by simp; decide), bracketToo,
    terminals_symbol (by decide) (by simp; decide) (by simp) rfl, terminals_word member stops]
  simp [Option.map_map, Function.comp_def, slotTerminals]

/-- The terminals of a mark, none for a blank. -/
def markTerminals (place : String → String × Nat) (mark : Lexeme) : List Terminal :=
  if mark.isBlank then [] else expand (mark.terminal place)

/-- **One mark** of a host form, if nothing that follows is stuck to it. -/
theorem terminals_mark {place : String → String × Nat} {mark : Lexeme} {marks : List Lexeme}
    (legible : Legible place (mark :: marks))
    (free : ∀ label, .name label ∈ mark :: marks → IsFree (place label).1.toList)
    (separate : ∀ first ∈ mark.chars.getLast?, ∀ second ∈ (marks.flatMap Lexeme.chars).head?,
      apart first second)
    (spaces : ∀ c ∈ mark.chars, isBlank c → isCSpace c) {rest : List Char}
    (next : rest.head? = (marks.flatMap (Lexeme.hostChars place)).head?) :
    terminals (mark.hostChars place ++ rest) =
      (terminals rest).map (markTerminals place mark ++ ·) := by
  cases mark with
  | number digits =>
      obtain ⟨written, decimal⟩ := legible.decimal digits List.mem_cons_self
      have stops := legible.head_after_operand rfl rfl
      rw [← next] at stops
      rw [Lexeme.hostChars, terminals_number written decimal stops]
      rfl
  | name label =>
      have stops := legible.head_after_operand rfl rfl
      rw [← next] at stops
      rw [Lexeme.hostChars, terminals_slot (free label List.mem_cons_self)
        fun d first => (stops d first).1]
      rfl
  | symbol c =>
      rw [Lexeme.hostChars, List.singleton_append]
      cases visible : isBlank c with
      | true =>
          have space := spaces c (by simp [Lexeme.chars]) visible
          have none : markTerminals place (.symbol c) = [] := if_pos visible
          rw [terminals_space space, none]
          exact Option.map_id_apply.symm
      | false =>
          have member : c ∈ arithmeticSymbols := by
            rcases legible.symbol_cases with blank | ⟨-, member⟩
            · rw [visible] at blank
              cases blank
            · exact member
          have known : ∀ c ∈ arithmeticSymbols, c ∈ symbols ∧ c ≠ '.' ∧
              (markTexts.lookup [c]).isSome := forall_mem_of_all (by decide)
          obtain ⟨symbol, noPoint, isMark⟩ := known c member
          obtain ⟨mark, found⟩ := Option.isSome_iff_exists.mp isMark
          have stops := legible.head_after_symbol visible (separate c (by simp [Lexeme.chars]))
          rw [← next] at stops
          rw [terminals_symbol symbol stops (fun point => absurd point noPoint) found]
          simp [markTerminals, Lexeme.isBlank, visible, Lexeme.terminal, expand, found]

/-- The terminals of the marks are those of the lexemes, since a blank has none. -/
theorem flatMap_markTerminals (place : String → String × Nat) (expression : String) :
    (marks expression).flatMap (markTerminals place) =
      ((lexemes expression).map (Lexeme.terminal place)).flatMap expand := by
  rw [lexemes_eq_filter_marks, List.flatMap_map]
  induction marks expression with
  | nil => rfl
  | cons mark marks ih =>
      rw [List.flatMap_cons, ih]
      cases seen : mark.isBlank with
      | true => simp [markTerminals, seen]
      | false => simp [markTerminals, seen]

/-- **A host form that a parenthesis closes.** -/
theorem closed_hostChars {place : String → String × Nat} {marks : List Lexeme}
    (legible : Legible place (marks ++ [Lexeme.symbol ')']))
    (spliceable : SpliceableChars (marks.flatMap Lexeme.chars))
    (free : ∀ label, .name label ∈ marks → IsFree (place label).1.toList) :
    Closed (marks.flatMap (Lexeme.hostChars place) ++ [')'])
      (marks.flatMap (markTerminals place) ++ [.mark .closing]) := by
  induction marks with
  | nil =>
      have closing : Closed ")".toList [.mark .closing] := closed_of_settled (by decide)
      exact closing
  | cons mark marks ih =>
      rw [List.cons_append] at legible
      obtain ⟨own, rest, separate⟩ := spliceableChars_cons.mp spliceable
      have later := ih legible.tail rest fun label member => free label (List.mem_cons_of_mem _ member)
      have freeToo : ∀ label, .name label ∈ mark :: (marks ++ [Lexeme.symbol ')']) →
          IsFree (place label).1.toList := by
        intro label member
        exact free label (by simpa using member)
      have separateToo : ∀ first ∈ mark.chars.getLast?, ∀ second ∈
          ((marks ++ [Lexeme.symbol ')']).flatMap Lexeme.chars).head?, apart first second := by
        intro first isLast second isHead
        rw [List.flatMap_append, List.head?_append, Option.mem_def, Option.or_eq_some_iff] at isHead
        rcases isHead with inside | ⟨-, closing⟩
        · exact separate first isLast second inside
        · obtain rfl : ')' = second := Option.some.inj closing
          simp [apart, show isNameStart ')' = false by decide]
      intro more
      have next : (marks.flatMap (Lexeme.hostChars place) ++ [')'] ++ more).head? =
          ((marks ++ [Lexeme.symbol ')']).flatMap (Lexeme.hostChars place)).head? := by
        rw [List.flatMap_append, List.head?_append_of_ne_nil]
        · rfl
        · simp
      have first := terminals_mark legible freeToo separateToo own.2 next
      rw [List.flatMap_cons, List.flatMap_cons, List.append_assoc, List.append_assoc,
        ← List.append_assoc _ [')'], first, later, Option.map_map]
      congr 1
      funext vs
      simp

/-! ### Between parentheses -/

/-- Characters that C reads as an expression if a closing parenthesis follows them. -/
def Encloses (chars : List Char) (x : Expr) : Prop :=
  ∃ ts, Closed (chars ++ [')']) (ts ++ [.mark .closing]) ∧
    ∀ rest, Reads (.expression 0) (ts ++ .mark .closing :: rest) x (.mark .closing :: rest)

/-- Characters that C reads as an operand, whatever follows them. -/
def Operand (chars : List Char) (x : Expr) : Prop :=
  ∃ ts, Closed chars ts ∧ ReadsAt .unary ts x

/-- The extent of a dimension from its upper and its lower bound. -/
def extentExpr (high low : Expr) : Expr :=
  .binary (.arithmetic .add) (.binary (.arithmetic .sub) high low) (.number ['1'])

/-- **The text of an extent** is an operand. -/
theorem Encloses.extent {high low : List Char} {x y : Expr} (first : Encloses high x)
    (second : Encloses low y) :
    Operand ("((".toList ++ high ++ ")-(".toList ++ low ++ ")+1)".toList) (extentExpr x y) := by
  obtain ⟨ts, closed, reads⟩ := first
  obtain ⟨us, closedToo, readsToo⟩ := second
  have opening : Closed "((".toList [.mark .opening, .mark .opening] := closed_of_settled (by decide)
  have minus : Closed "-(".toList [.mark .minus, .mark .opening] := closed_of_settled (by decide)
  have ending : Closed "+1)".toList [.mark .plus, .number ['1'], .mark .closing] :=
    closed_of_settled (by decide)
  have whole := opening.append (closed.append (minus.append (closedToo.append ending)))
  have subtracts : operator? (.mark .minus) = some (.arithmetic .sub) := rfl
  have adds : operator? (.mark .plus) = some (.arithmetic .add) := rfl
  have difference := (ReadsAt.parenthesized reads).single.product.summand
    (ReadsAt.parenthesized readsToo).single subtracts rfl
  have sum := difference.summand (ReadsAt.number ['1']).single adds rfl
  have operand := ReadsAt.parenthesized sum.enclosed
  refine ⟨_, ?_, operand⟩
  convert whole using 1
  · simp
  · simp

end ForeignGlue.CSource

namespace ForeignGlue

open ForeignGlue.CExpression (CExpr derives_wellJoined)
open ForeignGlue.CSource
open ForeignGlue.Expression
open ForeignGlue.Text

theorem all_isNameChar_of_isIdentifier {cs : List Char} (isIdentifier : IsIdentifier cs) :
    cs.all isNameChar := by
  obtain ⟨c, more, rfl, start, inside⟩ := isIdentifier
  rw [List.all_cons, isNameChar_of_isNameStart start, inside]
  rfl

/-! ### Bounds of a scope -/

/-- Whether a lexeme is a number only if C reads decimal digits there. -/
def Expression.Lexeme.isDecimal : Lexeme → Bool
  | .number digits => digits.all Char.isDigit
  | .name _ | .symbol _ => true

namespace Scope

variable {scope : Scope}

/-- The expression that C reads in the host form of a bound, if the bound is an expression of
decimal numbers and names and can be spliced. -/
def cExpression? (scope : Scope) (expression : String) : Option CExpr :=
  if Spliceable expression ∧ (readTree expression).2 = [] ∧
      (lexemes expression).all Lexeme.isDecimal then
    (readTree expression).1.hosted? scope.place
  else none

/-- The expression that C reads in the text of an extent. -/
def extentExpr? (scope : Scope) (bound : Bound) : Option Expr := do
  let high ← scope.cExpression? bound.high
  let low ← scope.cExpression? bound.low
  return extentExpr (.ofC high) (.ofC low)

theorem isFree_place (tables : scope.NamesTables) {label : String} {slot : Slot}
    (resolved : scope.resolve label = .ok slot) : IsFree (scope.place label).1.toList := by
  have rare : reservedWords.all fun entry => !decide ("_fscalars".toList <:+: entry.1) := by
    decide +kernel
  have suffixed (module : String) : "_fscalars".toList <:+: (module ++ "_fscalars").toList := by
    rw [String.toList_append]
    exact (List.suffix_append _ _).isInfix
  refine isFree_of_infix (isIdentifier_place tables resolved) ?_ rare
  rw [Scope.place, resolved]
  cases slot with
  | own slot => exact suffixed scope.module
  | external index slot => exact suffixed index.module

/-- **C reads the host form of a bound** as the expression that the bound is. -/
theorem encloses_pieces (tables : scope.NamesTables) {expression : String} {x : CExpr}
    {pieces : List Piece} (read : scope.cExpression? expression = some x)
    (rendered : scope.pieces .none expression = .ok pieces) :
    Encloses (scope.piecesText pieces).toList (.ofC x) := by
  rw [cExpression?, Option.ite_none_right_eq_some] at read
  obtain ⟨⟨spliceable, finished, decimal⟩, hosted⟩ := read
  have derived := derives_lexemes_iff.mpr ⟨hosted, finished⟩
  have resolves : ∀ label, .name label ∈ marks expression →
      ∃ slot, scope.resolve label = .ok slot := by
    intro label listed
    refine (scope.demands_pieces .none expression).resolved ?_ label ⟨(mem_marks_name listed).2, rfl⟩
    rw [rendered]
    intro error failed
    cases failed
  have legible : Legible scope.place (marks expression ++ [Lexeme.symbol ')']) := by
    refine legible_of_wellJoined ?_ ?_ ?_
    · have joined := (derives_wellJoined derived).closed
      rw [lexemes_eq_filter_marks] at joined
      rw [List.filter_append, List.map_append]
      exact joined
    · intro digits listed
      have member : .number digits ∈ marks expression := by simpa using listed
      refine ⟨mem_marks_number member, List.all_eq_true.mp decimal (.number digits) ?_⟩
      rw [lexemes_eq_filter_marks]
      exact List.mem_filter.mpr ⟨member, rfl⟩
    · intro label listed
      have member : .name label ∈ marks expression := by simpa using listed
      obtain ⟨slot, resolved⟩ := resolves label member
      exact ⟨(mem_marks_name member).1, isIdentifier_place tables resolved⟩
  have free : ∀ label, .name label ∈ marks expression → IsFree (scope.place label).1.toList := by
    intro label listed
    obtain ⟨slot, resolved⟩ := resolves label listed
    exact isFree_place tables resolved
  have spelled : (scope.piecesText pieces).toList =
      (marks expression).flatMap (Lexeme.hostChars scope.place) := by
    have whole : Rendered scope (marks expression ++ [Lexeme.symbol ')']) :=
      legible.rendered fun label listed => resolves label (by simpa using listed)
    have part : Rendered scope (marks expression) :=
      ⟨resolves, fun digits listed => whole.decimal digits (List.mem_append_left _ listed),
        fun c listed => whole.caseless c (List.mem_append_left _ listed)⟩
    obtain ⟨others, collected, spelled⟩ := exists_pieces part
    obtain rfl := Except.ok.inj (rendered.symm.trans collected)
    exact spelled
  rw [Spliceable, ← flatMap_chars_marks expression] at spliceable
  refine ⟨((lexemes expression).map (Lexeme.terminal scope.place)).flatMap expand, ?_,
    (Derives.reads derived).enclosed⟩
  rw [spelled, ← flatMap_markTerminals]
  exact closed_hostChars legible spliceable free

/-- The text of an extent, from the texts of its two bounds. -/
theorem operand_extentText {extent : Extent} {x y : Expr}
    (high : Encloses (scope.piecesText extent.high).toList x)
    (low : Encloses (scope.piecesText extent.low).toList y) :
    Operand (scope.extentText extent).toList (extentExpr x y) := by
  have spelled : (scope.extentText extent).toList =
      "((".toList ++ (scope.piecesText extent.high).toList ++ ")-(".toList ++
        (scope.piecesText extent.low).toList ++ ")+1)".toList := by
    simp only [← String.toList_append]
    rfl
  rw [spelled]
  exact high.extent low

theorem extent_eq_ok_iff {binding : Binding} {bound : Bound} {extent : Extent} :
    scope.extent binding bound = .ok extent ↔ scope.pieces binding bound.high = .ok extent.high ∧
      scope.pieces binding bound.low = .ok extent.low := by
  constructor
  · intro rendered
    obtain ⟨high, renderedHigh, more⟩ := bind_eq_ok_iff.mp rendered
    obtain ⟨low, renderedLow, same⟩ := bind_eq_ok_iff.mp more
    obtain rfl := Except.ok.inj same
    exact ⟨renderedHigh, renderedLow⟩
  · rintro ⟨renderedHigh, renderedLow⟩
    rw [Scope.extent, renderedHigh, renderedLow]
    rfl

/-- **C reads the text of an extent** as the extent of the bound. -/
theorem operand_extent (tables : scope.NamesTables) {bound : Bound} {x : Expr} {extent : Extent}
    (read : scope.extentExpr? bound = some x) (rendered : scope.extent .none bound = .ok extent) :
    Operand (scope.extentText extent).toList x := by
  obtain ⟨high, readHigh, more⟩ := Option.bind_eq_some_iff.mp read
  obtain ⟨low, readLow, same⟩ := Option.bind_eq_some_iff.mp more
  obtain rfl := Option.some.inj same
  obtain ⟨renderedHigh, renderedLow⟩ := extent_eq_ok_iff.mp rendered
  exact operand_extentText (encloses_pieces tables readHigh renderedHigh)
    (encloses_pieces tables readLow renderedLow)

end Scope

end ForeignGlue
