/-
**The grammar of expressions.**

An expression is a sum of products of signed primaries. The reader finds its tree by descent; the
productions say without the reader which trees there are.

* `Phrase.Derives`: the productions, from lexemes to trees.
* `Phrase.Derives.isHosted`, `isPhrase_of_derives`: they are those of C, whose slots are the names.
* `derives_iff`: an expression is derived as the one tree that it is read as.
-/

import ForeignGlue.Proofs.HostForm.Meaning

namespace ForeignGlue.Expression

open ForeignGlue.CExpression (CExpr Level)
open ForeignGlue.Text

/-! ### The grammar -/

/-- The phrases of an expression. -/
inductive Phrase where
  | primary
  | unary
  | product
  | sum
  deriving DecidableEq, Repr

/-- **The productions** of expressions, with the tree of each. A repetition is grown at its end, so
that its operators take their operands from left to right. -/
inductive Phrase.Derives : Phrase → List Lexeme → Tree → Prop
  | number (digits : List Char) : Phrase.Derives .primary [.number digits] (.number digits)
  | name (label : String) : Phrase.Derives .primary [.name label] (.name label)
  | parenthesized {inside : List Lexeme} {tree : Tree} (inner : Phrase.Derives .sum inside tree) :
      Phrase.Derives .primary (.symbol '(' :: (inside ++ [.symbol ')'])) tree
  | unsigned {source : List Lexeme} {tree : Tree} (operand : Phrase.Derives .primary source tree) :
      Phrase.Derives .unary source tree
  | plus {source : List Lexeme} {tree : Tree} (operand : Phrase.Derives .unary source tree) :
      Phrase.Derives .unary (.symbol '+' :: source) tree
  | minus {source : List Lexeme} {tree : Tree} (operand : Phrase.Derives .unary source tree) :
      Phrase.Derives .unary (.symbol '-' :: source) (.negated tree)
  | single {source : List Lexeme} {tree : Tree} (operand : Phrase.Derives .unary source tree) :
      Phrase.Derives .product source tree
  | multiplied {before after : List Lexeme} {left right : Tree}
      (first : Phrase.Derives .product before left) (second : Phrase.Derives .unary after right) :
      Phrase.Derives .product (before ++ .symbol '*' :: after) (.binary .mul left right)
  | divided {before after : List Lexeme} {left right : Tree}
      (first : Phrase.Derives .product before left) (second : Phrase.Derives .unary after right) :
      Phrase.Derives .product (before ++ .symbol '/' :: after) (.binary .div left right)
  | term {source : List Lexeme} {tree : Tree} (operand : Phrase.Derives .product source tree) :
      Phrase.Derives .sum source tree
  | added {before after : List Lexeme} {left right : Tree}
      (first : Phrase.Derives .sum before left) (second : Phrase.Derives .product after right) :
      Phrase.Derives .sum (before ++ .symbol '+' :: after) (.binary .add left right)
  | subtracted {before after : List Lexeme} {left right : Tree}
      (first : Phrase.Derives .sum before left) (second : Phrase.Derives .product after right) :
      Phrase.Derives .sum (before ++ .symbol '-' :: after) (.binary .sub left right)

/-! ### The grammar and the reader -/

/-- A phrase of the grammar is an expression of C, names being read as slots. -/
def IsHosted (place : String → String × Nat) (level : Level) (source : List Lexeme) (tree : Tree) :
    Prop :=
  ∃ x, tree.hosted? place = some x ∧
    CExpression.Derives level (source.map (Lexeme.terminal place)) x

theorem IsHosted.joined {place : String → String × Nat} {level lower : Level}
    {before after : List Lexeme} {left right : Tree} {symbol : Char} {operator : Operator}
    (first : IsHosted place level before left) (second : IsHosted place lower after right)
    (derive : ∀ {ts us x y}, CExpression.Derives level ts x → CExpression.Derives lower us y →
      CExpression.Derives level (ts ++ .symbol symbol :: us) (.binary operator x y)) :
    IsHosted place level (before ++ .symbol symbol :: after) (.binary operator left right) := by
  obtain ⟨x, leftHosted, leftDerived⟩ := first
  obtain ⟨y, rightHosted, rightDerived⟩ := second
  refine ⟨_, Takes.hosted_binary operator leftHosted rightHosted, ?_⟩
  rw [List.map_append, List.map_cons]
  exact derive leftDerived rightDerived

/-- The level of C's expressions that a phrase is of. C's unary expressions hold the primaries. -/
def Phrase.level : Phrase → Level
  | .primary | .unary => .unary
  | .product => .multiplicative
  | .sum => .additive

theorem Phrase.Derives.isHosted {place : String → String × Nat} {phrase : Phrase}
    {source : List Lexeme} {tree : Tree} (derived : phrase.Derives source tree) :
    IsHosted place phrase.level source tree := by
  induction derived with
  | number digits => exact ⟨_, rfl, .literal digits⟩
  | name label => exact ⟨_, rfl, .slot _ _⟩
  | parenthesized _ inner =>
      obtain ⟨x, hosted, derived⟩ := inner
      refine ⟨x, hosted, ?_⟩
      rw [List.map_cons, List.map_append]
      exact .parenthesized derived
  | unsigned _ operand => exact operand
  | plus _ operand =>
      obtain ⟨x, hosted, derived⟩ := operand
      exact ⟨x, hosted, .promoted derived⟩
  | minus _ operand =>
      obtain ⟨x, hosted, derived⟩ := operand
      exact ⟨.negated x, by rw [Tree.hosted?, hosted]; rfl, .negated derived⟩
  | single _ operand =>
      obtain ⟨x, hosted, derived⟩ := operand
      exact ⟨x, hosted, .single derived⟩
  | multiplied _ _ first second => exact first.joined second .multiplied
  | divided _ _ first second => exact first.joined second .divided
  | term _ operand =>
      obtain ⟨x, hosted, derived⟩ := operand
      exact ⟨x, hosted, .product derived⟩
  | added _ _ first second => exact first.joined second .added
  | subtracted _ _ first second => exact first.joined second .subtracted

/-- The phrase that holds what C reads at a level. -/
def phraseOf : Level → Phrase
  | .unary => .unary
  | .multiplicative => .product
  | .additive => .sum

/-- Lexemes that are seen as the terminals of a C expression are a phrase, for a tree that stands for
this expression. -/
def IsPhrase (place : String → String × Nat) (level : Level) (ts : List CExpression.Terminal)
    (x : CExpr) : Prop :=
  ∀ source : List Lexeme, source.map (Lexeme.terminal place) = ts →
    ∃ tree : Tree, tree.hosted? place = some x ∧ Phrase.Derives (phraseOf level) source tree

namespace IsPhrase

variable {place : String → String × Nat} {level lower : Level} {ts us : List CExpression.Terminal}
  {x y : CExpr}

theorem literal (digits : List Char) :
    IsPhrase place .unary [.literal digits] (.literal digits) := by
  intro source seen
  obtain rfl := map_terminal_eq_literal seen
  exact ⟨.number digits, rfl, .unsigned (.number digits)⟩

theorem slot (table : String) (index : Nat) :
    IsPhrase place .unary [.slot table index] (.slot table index) := by
  intro source seen
  obtain ⟨label, rfl, isPlace⟩ := map_terminal_eq_slot seen
  exact ⟨.name label, by rw [Tree.hosted?, isPlace], .unsigned (.name label)⟩

theorem parenthesized (inner : IsPhrase place .additive ts x) :
    IsPhrase place .unary (.symbol '(' :: (ts ++ [.symbol ')'])) x := by
  intro source seen
  obtain ⟨opening, more, rfl, openingSeen, moreSeen⟩ := List.map_eq_cons_iff.mp seen
  obtain rfl := terminal_eq_symbol openingSeen
  obtain ⟨inside, after, rfl, insideSeen, afterSeen⟩ := map_terminal_eq_infix moreSeen
  obtain rfl := List.map_eq_nil_iff.mp afterSeen
  obtain ⟨tree, hosted, derived⟩ := inner inside insideSeen
  exact ⟨tree, hosted, .unsigned (.parenthesized derived)⟩

/-- A sign in front of an operand, which may change the tree. -/
theorem signed {sign : Char} (wrap : Tree → Tree) (wrapped : CExpr → CExpr)
    (hosts : ∀ {tree x}, Tree.hosted? place tree = some x →
      (wrap tree).hosted? place = some (wrapped x))
    (derive : ∀ {source tree}, Phrase.Derives .unary source tree →
      Phrase.Derives .unary (.symbol sign :: source) (wrap tree))
    (operand : IsPhrase place .unary ts x) :
    IsPhrase place .unary (.symbol sign :: ts) (wrapped x) := by
  intro source seen
  obtain ⟨first, more, rfl, signSeen, moreSeen⟩ := List.map_eq_cons_iff.mp seen
  obtain rfl := terminal_eq_symbol signSeen
  obtain ⟨tree, hosted, derived⟩ := operand more moreSeen
  exact ⟨wrap tree, hosts hosted, derive derived⟩

theorem joined {symbol : Char} {operator : Operator}
    (first : IsPhrase place level ts x) (second : IsPhrase place lower us y)
    (derive : ∀ {before after left right}, Phrase.Derives (phraseOf level) before left →
      Phrase.Derives (phraseOf lower) after right →
      Phrase.Derives (phraseOf level) (before ++ .symbol symbol :: after)
        (.binary operator left right)) :
    IsPhrase place level (ts ++ .symbol symbol :: us) (.binary operator x y) := by
  intro source seen
  obtain ⟨before, after, rfl, beforeSeen, afterSeen⟩ := map_terminal_eq_infix seen
  obtain ⟨left, leftHosted, leftDerived⟩ := first before beforeSeen
  obtain ⟨right, rightHosted, rightDerived⟩ := second after afterSeen
  exact ⟨.binary operator left right, Takes.hosted_binary operator leftHosted rightHosted,
    derive leftDerived rightDerived⟩

theorem weakened (operand : IsPhrase place lower ts x)
    (derive : ∀ {source tree}, Phrase.Derives (phraseOf lower) source tree →
      Phrase.Derives (phraseOf level) source tree) : IsPhrase place level ts x := by
  intro source seen
  obtain ⟨tree, hosted, derived⟩ := operand source seen
  exact ⟨tree, hosted, derive derived⟩

end IsPhrase

theorem isPhrase_of_derives {place : String → String × Nat} {level : Level}
    {ts : List CExpression.Terminal} {x : CExpr} (derived : CExpression.Derives level ts x) :
    IsPhrase place level ts x := by
  induction derived with
  | literal digits => exact .literal digits
  | slot table index => exact .slot table index
  | parenthesized _ inner => exact inner.parenthesized
  | negated _ operand =>
      refine operand.signed .negated .negated (fun hosted => ?_) .minus
      rw [Tree.hosted?, hosted]
      rfl
  | promoted _ operand => exact operand.signed id id (fun hosted => hosted) .plus
  | single _ operand => exact operand.weakened .single
  | multiplied _ _ first second => exact first.joined second .multiplied
  | divided _ _ first second => exact first.joined second .divided
  | product _ operand => exact operand.weakened .term
  | added _ _ first second => exact first.joined second .added
  | subtracted _ _ first second => exact first.joined second .subtracted

/-- A slot for every name, which tells the name. -/
def slotOfName (label : String) : String × Nat :=
  (label, 0)

/-- The tree of an expression whose slots tell the names. -/
def treeOf : CExpr → Tree
  | .literal digits => .number digits
  | .slot label _ => .name label
  | .negated operand => .negated (treeOf operand)
  | .binary operator left right => .binary operator (treeOf left) (treeOf right)

theorem treeOf_hosted {tree : Tree} {x : CExpr} (hosted : tree.hosted? slotOfName = some x) :
    treeOf x = tree := by
  induction tree generalizing x with
  | number digits =>
      obtain rfl := Option.some.inj hosted
      rfl
  | name label =>
      obtain rfl := Option.some.inj hosted
      rfl
  | negated operand ih =>
      obtain ⟨inner, operandHosted, rfl⟩ := Option.map_eq_some_iff.mp hosted
      rw [treeOf, ih operandHosted]
  | binary operator left right leftIh rightIh =>
      obtain ⟨leftExpr, leftHosted, hosted⟩ := Option.bind_eq_some_iff.mp hosted
      obtain ⟨rightExpr, rightHosted, rfl⟩ := Option.map_eq_some_iff.mp hosted
      rw [treeOf, leftIh leftHosted, rightIh rightHosted]
  | missing => cases hosted
  | unclosed inner _ => cases hosted

/-- **An expression is derived as the one tree that it is read as**, if this shows no mistake. -/
theorem derives_iff {expression : String} {tree : Tree} :
    Phrase.Derives .sum (lexemes expression) tree ↔
      readTree expression = (tree, []) ∧ (tree.hosted? slotOfName).isSome := by
  constructor
  · intro derived
    obtain ⟨x, hosted, derived⟩ : IsHosted slotOfName .additive _ tree := derived.isHosted
    obtain ⟨readHosted, finished⟩ := derives_lexemes_iff.mp derived
    have same : (readTree expression).1 = tree := by
      rw [← treeOf_hosted readHosted, treeOf_hosted hosted]
    exact ⟨Prod.ext same finished, Option.isSome_of_eq_some hosted⟩
  · rintro ⟨read, isHosted⟩
    obtain ⟨x, hosted⟩ := Option.isSome_iff_exists.mp isHosted
    have derived := derives_lexemes_iff.mpr ⟨by rw [read]; exact hosted, by rw [read]⟩
    obtain ⟨other, otherHosted, produced⟩ := isPhrase_of_derives derived _ rfl
    rw [← treeOf_hosted hosted, treeOf_hosted otherHosted]
    exact produced

end ForeignGlue.Expression
