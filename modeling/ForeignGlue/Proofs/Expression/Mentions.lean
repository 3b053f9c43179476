/-
**The names that a value depends on.**

Only the names that are written in an expression matter for its value, and for the mistake that is
reported if it has none. This holds of any text, also of one that is no expression of the grammar.

* `readSum_draws`: the names in a tree are among the lexemes that it is read from;
* `Tree.eval_congr`: the value of a tree depends on its names;
* `evaluate_congr`: the value of an expression depends on the names that it mentions.
-/

import ForeignGlue.Expression.Eval
import ForeignGlue.Proofs.HostForm.Reading

namespace ForeignGlue.Expression

open ForeignGlue.Text

/-- The names in a tree. -/
def Tree.names : Tree → List String
  | .number _ => []
  | .name label => [label]
  | .negated operand => operand.names
  | .binary _ left right => left.names ++ right.names
  | .missing => []
  | .unclosed inner => inner.names

theorem Tree.eval_congr {lookup other : String → Option Int} {tree : Tree}
    (same : ∀ name ∈ tree.names, lookup name = other name) : tree.eval lookup = tree.eval other := by
  induction tree with
  | number digits => rfl
  | name label => rw [eval, eval, same label List.mem_cons_self]
  | negated operand ih => rw [eval, eval, ih same]
  | binary operator left right leftIh rightIh =>
      obtain ⟨sameLeft, sameRight⟩ := List.forall_mem_append.mp same
      rw [eval, eval, leftIh sameLeft, rightIh sameRight]
  | missing => rfl
  | unclosed inner ih => rw [eval, eval, ih same]

/-! ### Where the names of a tree come from -/

/-- What was read of `source`, and what is left of it, is there in `source`. -/
structure Draws (source : List Lexeme) (read : Tree × List Lexeme) : Prop where
  names : ∀ name ∈ read.1.names, .name name ∈ source
  rest : read.2 ⊆ source

/-- What was read of `source` after `left` is there in `source`, or in `left`. -/
structure DrawsAfter (left : Tree) (source : List Lexeme) (read : Tree × List Lexeme) : Prop where
  names : ∀ name ∈ read.1.names, name ∈ left.names ∨ .name name ∈ source
  rest : read.2 ⊆ source

variable {source : List Lexeme} {first right read : Tree × List Lexeme} {left : Tree}

theorem Draws.continued (start : Draws source first) (more : DrawsAfter first.1 first.2 read) :
    Draws source read where
  names name member := (more.names name member).elim (start.names name) fun later => start.rest later
  rest := List.Subset.trans more.rest start.rest

/-- A lexeme in front. -/
theorem Draws.cons (inner : Draws source read) (lexeme : Lexeme) : Draws (lexeme :: source) read where
  names name member := List.mem_cons_of_mem lexeme (inner.names name member)
  rest := List.Subset.trans inner.rest (List.subset_cons_self lexeme source)

theorem DrawsAfter.stopped : DrawsAfter left source (left, source) where
  names _ := .inl
  rest := List.Subset.refl source

theorem DrawsAfter.operator {op : Operator} (sign : Lexeme) (operand : Draws source right)
    (more : DrawsAfter (.binary op left right.1) right.2 read) :
    DrawsAfter left (sign :: source) read where
  names name member := by
    rcases more.names name member with both | later
    · rcases List.mem_append.mp both with inLeft | inRight
      · exact .inl inLeft
      · exact .inr (List.mem_cons_of_mem sign (operand.names name inRight))
    · exact .inr (List.mem_cons_of_mem sign (operand.rest later))
  rest := List.Subset.trans (List.Subset.trans more.rest operand.rest) (List.subset_cons_self sign source)

theorem keptByReaders_draws : KeptByReaders (fun _ => Draws) (fun _ => DrawsAfter) where
  sum start more := start.continued more
  added operand more := .operator _ operand more
  subtracted operand more := .operator _ operand more
  product start more := start.continued more
  multiplied operand more := .operator _ operand more
  divided operand more := .operator _ operand more
  stopped := .stopped
  negated operand := ⟨(operand.cons _).names, (operand.cons _).rest⟩
  promoted operand := operand.cons _
  number := ⟨List.forall_mem_nil _, List.subset_cons_self _ _⟩
  name := ⟨List.forall_mem_singleton.mpr List.mem_cons_self, List.subset_cons_self _ _⟩
  parenthesized inner :=
    ⟨(inner.cons _).names, List.Subset.trans (List.subset_cons_self _ _) (inner.cons _).rest⟩
  unclosed inner := ⟨(inner.cons _).names, List.nil_subset _⟩
  missing := ⟨List.forall_mem_nil _, List.nil_subset _⟩

/-- **The names in a tree** are among the lexemes that it is read from. -/
theorem readSum_draws (source : List Lexeme) : Draws source (outcome (readSum source)) :=
  keptByReaders_draws.reads_readSum source

theorem mem_names_of_readTree {expression name : String}
    (member : name ∈ (readTree expression).1.names) : name ∈ names expression := by
  have listed := (readSum_draws (lexemes expression)).names name member
  rw [lexemes_eq_filter_marks] at listed
  exact (mem_marks_name (List.mem_filter.mp listed).1).2

/-- **The value of an expression depends on the names that it mentions**, and so does the mistake if
it has no value. -/
theorem evaluate_congr {expression : String} {lookup other : String → Option Int}
    (same : ∀ name ∈ names expression, lookup name = other name) :
    evaluate expression lookup = evaluate expression other := by
  have trees : (readTree expression).1.eval lookup = (readTree expression).1.eval other :=
    Tree.eval_congr fun name member => same name (mem_names_of_readTree member)
  unfold evaluate evaluateReadable
  dsimp only
  rw [trees]

end ForeignGlue.Expression
