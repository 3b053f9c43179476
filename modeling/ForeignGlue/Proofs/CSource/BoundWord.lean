/-
**Bounds of a single word.**

Most bounds are one name or one constant. Then the expression that C reads is a local variable, a slot
or a constant, and its type is known: a constant below two to the 31st is an `int`, all else a `long`.

* `IsWord.tokens_eq`, `IsWord.readTree_eq`: how a word is cut and read.
* `Scope.encloses_word`: C reads the host form of a word as `Scope.wordExpr` says.
* `Scope.value_wordExpr`: the typed value of that expression.
* `value_extentExpr`: the typed value of an extent, which is computed in the common type of its bounds.
-/

import ForeignGlue.Proofs.CSource.Bounds
import ForeignGlue.Proofs.CSource.Execution
import ForeignGlue.Proofs.ScalarIndex.Lookup

namespace ForeignGlue.Expression

open ForeignGlue.CExpression (CType CValue decimalType isPlainLiteral literal?_of_literalValue
  literalValue_eq_ok)
open ForeignGlue.Text

/-! ### Words -/

/-- A text that is one name, or one decimal number that C reads as it is spelled. -/
inductive IsWord (word : String) : Prop
  | name (isName : IsIdentifier word.toList)
  | constant (written : word.toList ≠ []) (decimal : word.toList.all Char.isDigit)
      (plain : isPlainLiteral word.toList)

theorem tokens_of_decimal {word : String} (written : word.toList ≠ [])
    (decimal : word.toList.all Char.isDigit) : tokens word = [⟨.number, word.toList⟩] := by
  obtain ⟨c, cs, spelled⟩ := List.exists_cons_of_ne_nil written
  rw [spelled] at decimal
  have digits : (c :: cs).takeWhile isDecimalDigit = c :: cs := by
    rw [List.takeWhile_eq_self_iff]
    intro d member
    have digit := (isDigit_iff d).mp (List.all_eq_true.mp decimal d member)
    rw [isDecimalDigit, List.any_eq_true]
    exact ⟨0x30, by decide, by simp; omega⟩
  have run : digitRun (c :: cs) = cs.length + 1 := by
    rw [digitRun, digits]
    rfl
  have mantissa : mantissaLength (c :: cs) = cs.length + 1 := by
    rw [mantissaLength, if_neg (by omega), run]
    simp [pointLength]
  have whole : numberLength (c :: cs) = cs.length + 1 := by
    rw [numberLength, if_neg (by omega), mantissa]
    simp [exponentLength]
  rw [tokens, spelled, tokensFrom, if_pos (by omega), whole, tokensFrom_eq_drop]
  simp [tokensFrom]

/-- The lexeme that a word is. -/
def wordLexeme (word : String) : Lexeme :=
  if isLiteral word then .number word.toList else .name word

/-- The tree of a word. -/
def wordTree (word : String) : Tree :=
  if isLiteral word then .number word.toList else .name word

namespace IsWord

variable {word : String}

/-- A word is one token: a number if it mentions no name, and else a name. -/
theorem tokens_eq (isWord : IsWord word) :
    tokens word = [⟨if isLiteral word then .number else .name, word.toList⟩] := by
  cases isWord with
  | name isName =>
      have single := tokens_of_isIdentifier isName
      have mentions : isLiteral word = false := by simp [isLiteral, names, single]
      rw [single, mentions]
      rfl
  | constant written decimal plain =>
      have single := tokens_of_decimal written decimal
      have mentionsNone : isLiteral word = true := by simp [isLiteral, names, single]
      rw [single, mentionsNone]
      rfl

theorem lexemes_eq (isWord : IsWord word) : lexemes word = [wordLexeme word] := by
  rw [lexemes, isWord.tokens_eq, wordLexeme]
  cases isLiteral word with
  | true => rfl
  | false => simp [Token.lexemes, Token.text]

/-- A word is read as one number or one name. -/
theorem readTree_eq (isWord : IsWord word) : readTree word = (wordTree word, []) := by
  show outcome (readSum (lexemes word)) = _
  rw [isWord.lexemes_eq, wordLexeme, wordTree]
  cases isLiteral word with
  | true => simp [outcome, readSum, readProduct, readUnary, readPrimary, readSumRest, readProductRest]
  | false => simp [outcome, readSum, readProduct, readUnary, readPrimary, readSumRest, readProductRest]

/-- A word without a name is a decimal constant. -/
theorem constant_of_isLiteral (isWord : IsWord word) (literal : isLiteral word = true) :
    word.toList ≠ [] ∧ word.toList.all Char.isDigit ∧ isPlainLiteral word.toList := by
  cases isWord with
  | name isName =>
      have mentions : isLiteral word = false := by
        simp [isLiteral, names, tokens_of_isIdentifier isName]
      rw [mentions] at literal
      cases literal
  | constant written decimal plain => exact ⟨written, decimal, plain⟩

theorem isIdentifier (isWord : IsWord word) (mentions : isLiteral word = false) :
    IsIdentifier word.toList := by
  cases isWord with
  | name isName => exact isName
  | constant written decimal plain =>
      have mentionsNone : isLiteral word = true := by
        simp [isLiteral, names, tokens_of_decimal written decimal]
      rw [mentionsNone] at mentions
      cases mentions

theorem all_isNameChar (isWord : IsWord word) : word.toList.all isNameChar := by
  cases isWord with
  | name isName => exact all_isNameChar_of_isIdentifier isName
  | constant written decimal plain =>
      rw [List.all_eq_true] at decimal ⊢
      exact fun c member => isNameChar_of_isDigit (decimal c member)

theorem all_isAscii (isWord : IsWord word) : word.toList.all isAscii := by
  have inside := isWord.all_isNameChar
  rw [List.all_eq_true] at inside ⊢
  exact fun c member => isAscii_of_isNameChar (inside c member)

/-- The value of a word is that of its tree. -/
theorem eval_of_evaluate (isWord : IsWord word) {lookup : String → Option Int} {value : Int}
    (valued : evaluate word lookup = .ok value) : (wordTree word).eval lookup = .ok value := by
  have read := (readTree_of_evaluate valued).1
  rwa [isWord.readTree_eq] at read

end IsWord

/-- The type of a word in C. -/
def wordType (word : String) : CType :=
  if isLiteral word then decimalType (Nat.ofDigitChars 10 word.toList 0) else .long

theorem isSigned_wordType (word : String) : (wordType word).isSigned := by
  unfold wordType decimalType
  split
  · split <;> rfl
  · rfl

end ForeignGlue.Expression

namespace ForeignGlue

open ForeignGlue.CExpression
open ForeignGlue.CSource
open ForeignGlue.Expression
open ForeignGlue.Text

/-! ### Words of a scope -/

namespace Scope

variable {scope : Scope} {binding : Binding} {word : String}

/-- The expression that C reads in the host form of a word. -/
def wordExpr (scope : Scope) (binding : Binding) (word : String) : Expr :=
  if isLiteral word then .number word.toList
  else
    match binding word with
    | some label => .name label
    | none => slotExpr (scope.place word).1 (scope.place word).2

theorem cExpression?_of_isWord (isWord : IsWord word) :
    scope.cExpression? word = (wordTree word).hosted? scope.place := by
  have decimal : (lexemes word).all Lexeme.isDecimal := by
    rw [isWord.lexemes_eq, wordLexeme]
    cases literal : isLiteral word with
    | true => simpa [Lexeme.isDecimal] using (isWord.constant_of_isLiteral literal).2.1
    | false => rfl
  rw [cExpression?, isWord.readTree_eq, if_pos]
  exact ⟨spliceableChars_of_nameChars isWord.all_isNameChar, rfl, decimal⟩

/-- The host form of a constant, or of a name that is not bound, does not depend on what is bound. -/
theorem pieces_eq_of_unbound (isWord : IsWord word)
    (unbound : isLiteral word = false → binding word = none) :
    scope.pieces binding word = scope.pieces .none word := by
  rw [pieces, pieces, isWord.tokens_eq]
  cases literal : isLiteral word with
  | true => rfl
  | false =>
      have same : scope.piece binding ⟨.name, word.toList⟩ = scope.piece .none ⟨.name, word.toList⟩ := by
        simp [piece, Token.text, unbound literal, Binding.none]
      simp [same]

/-- A word that is bound is rendered as its local variable. -/
theorem pieces_eq_of_bound (isWord : IsWord word) (mentions : isLiteral word = false)
    {label : String} (bound : binding word = some label) :
    scope.pieces binding word = .ok [.local label] := by
  rw [pieces, isWord.tokens_eq, mentions]
  simp [piece, Token.text, bound, collect]

/-- **C reads the host form of a word** as a constant, a local variable or a slot. -/
theorem encloses_word (tables : scope.NamesTables) (isWord : IsWord word)
    (free : isLiteral word = false → ∀ label, binding word = some label → IsFree label.toList)
    {pieces : List Piece}
    (rendered : scope.pieces binding word = .ok pieces) :
    Encloses (scope.piecesText pieces).toList (scope.wordExpr binding word) := by
  have read : scope.cExpression? word = _ := cExpression?_of_isWord isWord
  rw [wordTree] at read
  rw [wordExpr]
  cases literal : isLiteral word with
  | true =>
      rw [literal] at read
      have unbound : isLiteral word = false → binding word = none := by
        intro mentions
        rw [literal] at mentions
        cases mentions
      exact encloses_pieces tables read ((pieces_eq_of_unbound isWord unbound).symm.trans rendered)
  | false =>
      rw [literal] at read
      cases bound : binding word with
      | none =>
          exact encloses_pieces tables read
            ((pieces_eq_of_unbound isWord fun _ => bound).symm.trans rendered)
      | some label =>
          have closing : Closed ")".toList [.mark .closing] := closed_of_settled (by decide)
          rw [pieces_eq_of_bound isWord literal bound] at rendered
          obtain rfl := Except.ok.inj rendered
          refine ⟨[.name label], ?_, fun rest => ?_⟩
          · convert closing.word (free literal label bound) rfl using 1
            · simp [piecesText, pieceText, String.join]
            · rfl
          · exact .expression (.name (.suffixesEnd rfl)) (.operatorsEnd rfl)

/-- **The typed value of a word**, if its name has the value it stands for. -/
theorem value_wordExpr (isWord : IsWord word) {world : World} {locals : Locals}
    {lookup : String → Option Int} {value : Int} (valued : evaluate word lookup = .ok value)
    (held : isLiteral word = false → lookup word = some value → fitsWord value →
      (scope.wordExpr binding word).value world locals = some (.integer ⟨.long, value⟩)) :
    (scope.wordExpr binding word).value world locals = some (.integer ⟨wordType word, value⟩) := by
  have evaluated := isWord.eval_of_evaluate valued
  rw [wordTree] at evaluated
  rw [wordType]
  cases literal : isLiteral word with
  | true =>
      rw [literal] at evaluated
      obtain ⟨written, -, plain⟩ := isWord.constant_of_isLiteral literal
      have number := literalValue_eq_ok evaluated
      rw [wordExpr, literal, if_pos rfl, if_pos rfl, Expr.value,
        literal?_of_literalValue written plain evaluated, ← number.2.1]
      rfl
  | false =>
      rw [literal, if_neg Bool.false_ne_true, Tree.eval] at evaluated
      rw [if_neg Bool.false_ne_true]
      cases found : lookup word with
      | none =>
          rw [found] at evaluated
          cases evaluated
      | some given =>
          rw [found] at evaluated
          obtain ⟨fits, rfl⟩ := Tree.checked_eq_ok_iff.mp evaluated
          exact held literal found fits

end Scope

/-! ### Extents -/

namespace CSource

variable {world : World} {locals : Locals} {left right : Expr} {x y : CValue}

/-- Arithmetic on signed integers. -/
theorem Expr.value_arithmetic (operator : Operator)
    (isFirst : left.value world locals = some (.integer x))
    (isSecond : right.value world locals = some (.integer y)) (signed : x.type.isSigned)
    (signedToo : y.type.isSigned) :
    (Expr.binary (.arithmetic operator) left right).value world locals =
      ((x.type.common y.type).apply operator x.value y.value).map .integer := by
  rw [Expr.value, isFirst, isSecond]
  show applyInteger operator x y = _
  unfold applyInteger
  dsimp only
  rw [convert_common signed signedToo, convert_common signed signedToo]

theorem result_of_holds {type : CType} {value : Int} (signed : type.isSigned)
    (holds : type.holds value) : type.result value = some ⟨type, value⟩ := by
  rw [CType.result, if_pos signed, if_pos holds]

/-- **The typed value of an extent**, which C computes in the common type of the two bounds. -/
theorem value_extentExpr {type : CType} (isHigh : left.value world locals = some (.integer x))
    (isLow : right.value world locals = some (.integer y)) (signed : x.type.isSigned)
    (signedToo : y.type.isSigned) (common : x.type.common y.type = type) (wide : type.isSigned)
    (span : type.holds (x.value - y.value)) (extent : type.holds (x.value - y.value + 1)) :
    (extentExpr left right).value world locals =
      some (.integer ⟨type, x.value - y.value + 1⟩) := by
  have difference : (Expr.binary (.arithmetic .sub) left right).value world locals =
      some (.integer ⟨type, x.value - y.value⟩) := by
    rw [Expr.value_arithmetic .sub isHigh isLow signed signedToo, common]
    show (type.result (x.value - y.value)).map _ = _
    rw [result_of_holds wide span]
    rfl
  have one : (Expr.number ['1']).value world locals = some (.integer ⟨.int, 1⟩) := rfl
  have absorbed : type.common .int = type := by
    cases type with
    | int => rfl
    | unsigned => cases wide
    | long => rfl
    | unsignedLong => cases wide
  rw [extentExpr, Expr.value_arithmetic .add difference one wide rfl]
  dsimp only
  rw [absorbed]
  show (type.result (x.value - y.value + 1)).map _ = _
  rw [result_of_holds wide extent]
  rfl

end CSource

end ForeignGlue
