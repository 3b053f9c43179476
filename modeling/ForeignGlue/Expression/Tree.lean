/-
Expression trees.

The grammar of a bound expression is

* sum: a product, then any number of `+` or `-` with a product after each;
* product: a unary term, then any number of `*` or `/` with a unary term after each;
* unary term: a primary with any number of signs in front;
* primary: a number, a name, or a sum in parentheses.

Reading never fails: where an operand is missing, or a parenthesis is not closed, the tree says so.
An evaluation that goes from left to right then meets its first mistake exactly where it stands.
-/

import ForeignGlue.Expression.Token

namespace ForeignGlue.Expression

open ForeignGlue.Text

/-! ### Lexemes -/

/-- What the grammar is about: numbers, names and single characters. -/
inductive Lexeme where
  | number (digits : List Char)
  | name (name : String)
  | symbol (symbol : Char)
  deriving DecidableEq, Repr

/-- The lexemes of a token. Blanks are dropped. -/
def Token.lexemes (token : Token) : List Lexeme :=
  match token.kind with
  | .number => [.number token.chars]
  | .name => [.name token.text]
  | .other => (token.chars.filter fun c => !isBlank c).map .symbol

/-- The lexemes of an expression. -/
def lexemes (expression : String) : List Lexeme :=
  (tokens expression).flatMap Token.lexemes

/-! ### Trees -/

/-- The binary operators. -/
inductive Operator where
  | add
  | sub
  | mul
  | div
  deriving DecidableEq, Repr

/-- What is read from the lexemes of an expression. -/
inductive Tree where
  | number (digits : List Char)
  | name (name : String)
  | negated (operand : Tree)
  | binary (operator : Operator) (left right : Tree)
  /-- There is no operand where one must stand. -/
  | missing
  /-- The parenthesis around `inner` is not closed. -/
  | unclosed (inner : Tree)
  deriving DecidableEq, Repr

/-- What is left of a list of lexemes: never more than there was. -/
abbrev Rest (source : List Lexeme) :=
  { rest : List Lexeme // rest.length ≤ source.length }

/-- What is left after a closing parenthesis. -/
def afterClosing? (source : List Lexeme) : Option (Rest source) :=
  match source with
  | .symbol ')' :: rest => some ⟨rest, Nat.le_succ _⟩
  | _ => none

mutual

/-- Reads a sum. -/
def readSum (source : List Lexeme) : Tree × Rest source :=
  match readProduct source with
  | (first, ⟨tail, shorter⟩) =>
    match readSumRest first tail with
    | (tree, ⟨rest, bound⟩) => (tree, ⟨rest, by omega⟩)
termination_by 6 * source.length + 5

/-- Reads what follows the first product of a sum. -/
def readSumRest (left : Tree) (source : List Lexeme) : Tree × Rest source :=
  match source with
  | .symbol '+' :: tail =>
    match readProduct tail with
    | (right, ⟨more, shorter⟩) =>
      match readSumRest (.binary .add left right) more with
      | (tree, ⟨rest, bound⟩) => (tree, ⟨rest, by simp only [List.length_cons]; omega⟩)
  | .symbol '-' :: tail =>
    match readProduct tail with
    | (right, ⟨more, shorter⟩) =>
      match readSumRest (.binary .sub left right) more with
      | (tree, ⟨rest, bound⟩) => (tree, ⟨rest, by simp only [List.length_cons]; omega⟩)
  | source => (left, ⟨source, Nat.le_refl _⟩)
termination_by 6 * source.length + 4

/-- Reads a product. -/
def readProduct (source : List Lexeme) : Tree × Rest source :=
  match readUnary source with
  | (first, ⟨tail, shorter⟩) =>
    match readProductRest first tail with
    | (tree, ⟨rest, bound⟩) => (tree, ⟨rest, by omega⟩)
termination_by 6 * source.length + 3

/-- Reads what follows the first unary term of a product. -/
def readProductRest (left : Tree) (source : List Lexeme) : Tree × Rest source :=
  match source with
  | .symbol '*' :: tail =>
    match readUnary tail with
    | (right, ⟨more, shorter⟩) =>
      match readProductRest (.binary .mul left right) more with
      | (tree, ⟨rest, bound⟩) => (tree, ⟨rest, by simp only [List.length_cons]; omega⟩)
  | .symbol '/' :: tail =>
    match readUnary tail with
    | (right, ⟨more, shorter⟩) =>
      match readProductRest (.binary .div left right) more with
      | (tree, ⟨rest, bound⟩) => (tree, ⟨rest, by simp only [List.length_cons]; omega⟩)
  | source => (left, ⟨source, Nat.le_refl _⟩)
termination_by 6 * source.length + 2

/-- Reads a unary term. A leading `+` leaves no trace. -/
def readUnary (source : List Lexeme) : Tree × Rest source :=
  match source with
  | .symbol '-' :: tail =>
    match readUnary tail with
    | (operand, ⟨rest, bound⟩) => (.negated operand, ⟨rest, Nat.le_succ_of_le bound⟩)
  | .symbol '+' :: tail =>
    match readUnary tail with
    | (operand, ⟨rest, bound⟩) => (operand, ⟨rest, Nat.le_succ_of_le bound⟩)
  | source => readPrimary source
termination_by 6 * source.length + 1

/-- Reads a primary. Nothing is read after a mistake. -/
def readPrimary (source : List Lexeme) : Tree × Rest source :=
  match source with
  | .number digits :: tail => (.number digits, ⟨tail, Nat.le_succ _⟩)
  | .name name :: tail => (.name name, ⟨tail, Nat.le_succ _⟩)
  | .symbol '(' :: tail =>
    match readSum tail with
    | (inner, ⟨more, bound⟩) =>
      match afterClosing? more with
      | some ⟨rest, shorter⟩ => (inner, ⟨rest, by simp only [List.length_cons]; omega⟩)
      | none => (.unclosed inner, ⟨[], Nat.zero_le _⟩)
  | _ => (.missing, ⟨[], Nat.zero_le _⟩)
termination_by 6 * source.length

end

/-- The tree of an expression, and the lexemes after it. -/
def readTree (expression : String) : Tree × List Lexeme :=
  match readSum (lexemes expression) with
  | (tree, ⟨rest, _⟩) => (tree, rest)

end ForeignGlue.Expression
