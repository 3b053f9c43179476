/-
**Statements and functions of C.**

The part of C that generated functions are written in: expressions with the operators of C in their
levels, declarations, assignments, calls, conditionals, blocks and jumps, and functions without a
result. `Reads` says which expression stands at the start of a list of terminals and what is left
after it; `ReadsCode` says it of statements and `ReadsUnit` of a whole file.

* `Reads.unique`, `ReadsCode.unique`, `ReadsUnit.unique`: there is at most one reading.
* `Spells`: a text and the functions it defines, of which there is one list at most
  (`Spells.unique`).
-/

import ForeignGlue.Proofs.CExpression.Arithmetic
import ForeignGlue.Proofs.CSource.Terminal

namespace ForeignGlue.CSource

open ForeignGlue.Expression (Operator)

/-! ### Expressions -/

/-- An operator between two operands. -/
inductive BinaryOperator where
  | or
  | and
  | equal
  | unequal
  | lessEqual
  | arithmetic (operator : Operator)
  deriving DecidableEq, Repr

/-- An expression. -/
inductive Expr where
  | number (digits : List Char)
  /-- A string literal, as it is spelled. -/
  | text (spelled : List Char)
  | name (name : String)
  /-- An element of an array. -/
  | element (array index : Expr)
  /-- A member of a structure. -/
  | field (base : Expr) (name : String)
  | call (callee arguments : Expr)
  /-- More than one argument. -/
  | arguments (first rest : Expr)
  | negation (operand : Expr)
  | negated (operand : Expr)
  /-- What a pointer points to. -/
  | pointed (pointer : Expr)
  | cast (type : String) (operand : Expr)
  /-- A cast to a pointer type. -/
  | pointerCast (type : String) (operand : Expr)
  | binary (operator : BinaryOperator) (left right : Expr)
  deriving DecidableEq, Repr

/-- How tightly an operator binds. -/
def BinaryOperator.level : BinaryOperator → Nat
  | .or => 0
  | .and => 1
  | .equal | .unequal => 2
  | .lessEqual => 3
  | .arithmetic .add | .arithmetic .sub => 4
  | .arithmetic .mul | .arithmetic .div => 5

/-- The operator that a terminal is. -/
def operator? : Terminal → Option BinaryOperator
  | .mark .orOr => some .or
  | .mark .andAnd => some .and
  | .mark .equal => some .equal
  | .mark .unequal => some .unequal
  | .mark .lessEqual => some .lessEqual
  | .mark .plus => some (.arithmetic .add)
  | .mark .minus => some (.arithmetic .sub)
  | .mark .star => some (.arithmetic .mul)
  | .mark .slash => some (.arithmetic .div)
  | _ => none

/-- Whether no operator stands at the start that binds at least as tightly as a level. -/
def endsOperators (level : Nat) (rest : List Terminal) : Bool :=
  !(rest.head?.bind operator?).any fun operator => level ≤ operator.level

/-- Whether no index, member or call stands at the start. -/
def endsSuffixes (rest : List Terminal) : Bool :=
  match rest with
  | .mark .openingBracket :: _ | .mark .dot :: _ | .mark .opening :: _ => false
  | _ => true

/-- What is read. -/
inductive Phrase where
  /-- Operands, between them operators of a level or tighter ones. -/
  | expression (level : Nat)
  /-- The operators of a level or tighter ones, after what stands on their left. -/
  | operators (level : Nat) (left : Expr)
  | operand
  /-- What follows the start of an operand. -/
  | suffixes (base : Expr)
  | arguments
  deriving DecidableEq, Repr

/-- **The expression at the start of a list of terminals**, and what is left after it. Operators of
one level are taken from the left. -/
inductive Reads : Phrase → List Terminal → Expr → List Terminal → Prop
  | expression {level : Nat} {ts us rest : List Terminal} {x y : Expr} (first : Reads .operand ts x us)
      (more : Reads (.operators level x) us y rest) : Reads (.expression level) ts y rest
  | operator {level : Nat} {t : Terminal} {operator : BinaryOperator} {ts us rest : List Terminal}
      {x y z : Expr} (found : operator? t = some operator) (binds : level ≤ operator.level)
      (right : Reads (.expression (operator.level + 1)) ts y us)
      (more : Reads (.operators level (.binary operator x y)) us z rest) :
      Reads (.operators level x) (t :: ts) z rest
  | operatorsEnd {level : Nat} {x : Expr} {rest : List Terminal} (ends : endsOperators level rest) :
      Reads (.operators level x) rest x rest
  | negation {ts rest : List Terminal} {x : Expr} (operand : Reads .operand ts x rest) :
      Reads .operand (.mark .bang :: ts) (.negation x) rest
  | negated {ts rest : List Terminal} {x : Expr} (operand : Reads .operand ts x rest) :
      Reads .operand (.mark .minus :: ts) (.negated x) rest
  /-- A leading `+` promotes its operand, which changes no `int` and no `long`. -/
  | promoted {ts rest : List Terminal} {x : Expr} (operand : Reads .operand ts x rest) :
      Reads .operand (.mark .plus :: ts) x rest
  | pointed {ts rest : List Terminal} {x : Expr} (operand : Reads .operand ts x rest) :
      Reads .operand (.mark .star :: ts) (.pointed x) rest
  | cast {type : String} {ts rest : List Terminal} {x : Expr} (operand : Reads .operand ts x rest) :
      Reads .operand (.mark .opening :: .typeName type :: .mark .closing :: ts) (.cast type x) rest
  | pointerCast {type : String} {ts rest : List Terminal} {x : Expr}
      (operand : Reads .operand ts x rest) :
      Reads .operand
        (.mark .opening :: .typeName type :: .mark .star :: .mark .closing :: ts)
        (.pointerCast type x) rest
  | parenthesized {ts us rest : List Terminal} {x y : Expr}
      (inner : Reads (.expression 0) ts x (.mark .closing :: us))
      (more : Reads (.suffixes x) us y rest) : Reads .operand (.mark .opening :: ts) y rest
  | number {digits : List Char} {ts rest : List Terminal} {x : Expr}
      (more : Reads (.suffixes (.number digits)) ts x rest) :
      Reads .operand (.number digits :: ts) x rest
  | text {spelled : List Char} {ts rest : List Terminal} {x : Expr}
      (more : Reads (.suffixes (.text spelled)) ts x rest) :
      Reads .operand (.text spelled :: ts) x rest
  | name {name : String} {ts rest : List Terminal} {x : Expr}
      (more : Reads (.suffixes (.name name)) ts x rest) : Reads .operand (.name name :: ts) x rest
  | element {ts us rest : List Terminal} {x y z : Expr}
      (index : Reads (.expression 0) ts y (.mark .closingBracket :: us))
      (more : Reads (.suffixes (.element x y)) us z rest) :
      Reads (.suffixes x) (.mark .openingBracket :: ts) z rest
  | field {name : String} {ts rest : List Terminal} {x y : Expr}
      (more : Reads (.suffixes (.field x name)) ts y rest) :
      Reads (.suffixes x) (.mark .dot :: .name name :: ts) y rest
  | call {ts us rest : List Terminal} {x y z : Expr}
      (arguments : Reads .arguments ts y (.mark .closing :: us))
      (more : Reads (.suffixes (.call x y)) us z rest) :
      Reads (.suffixes x) (.mark .opening :: ts) z rest
  | suffixesEnd {x : Expr} {rest : List Terminal} (ends : endsSuffixes rest) :
      Reads (.suffixes x) rest x rest
  | oneArgument {ts rest : List Terminal} {x : Expr} (argument : Reads (.expression 0) ts x rest)
      (ends : rest.head? ≠ some (.mark .comma)) : Reads .arguments ts x rest
  | moreArguments {ts us rest : List Terminal} {x y : Expr}
      (first : Reads (.expression 0) ts x (.mark .comma :: us))
      (more : Reads .arguments us y rest) : Reads .arguments ts (.arguments x y) rest

/-- No operand starts with the name of a type. -/
theorem Reads.not_typeName {level : Nat} {type : String} {ts rest : List Terminal} {x : Expr} :
    ¬Reads (.expression level) (.typeName type :: ts) x rest := by
  intro read
  cases read with
  | expression first more => cases first

/-- **There is one reading at most.** -/
theorem Reads.unique {phrase : Phrase} {ts rest other : List Terminal} {x y : Expr}
    (read : Reads phrase ts x rest) (readToo : Reads phrase ts y other) : x = y ∧ rest = other := by
  induction read generalizing y other with
  | expression first more firstIh moreIh =>
      cases readToo with
      | expression firstToo moreToo =>
          obtain ⟨rfl, rfl⟩ := firstIh firstToo
          exact moreIh moreToo
  | operator found binds right more rightIh moreIh =>
      cases readToo with
      | operator foundToo bindsToo rightToo moreToo =>
          obtain rfl := Option.some.inj (found.symm.trans foundToo)
          obtain ⟨rfl, rfl⟩ := rightIh rightToo
          exact moreIh moreToo
      | operatorsEnd ends => simp [endsOperators, found, binds] at ends
  | operatorsEnd ends =>
      cases readToo with
      | operator found binds right more => simp [endsOperators, found, binds] at ends
      | operatorsEnd endsToo => exact ⟨rfl, rfl⟩
  | negation operand ih =>
      cases readToo with
      | negation operandToo =>
          obtain ⟨rfl, rfl⟩ := ih operandToo
          exact ⟨rfl, rfl⟩
  | negated operand ih =>
      cases readToo with
      | negated operandToo =>
          obtain ⟨rfl, rfl⟩ := ih operandToo
          exact ⟨rfl, rfl⟩
  | promoted operand ih =>
      cases readToo with
      | promoted operandToo => exact ih operandToo
  | pointed operand ih =>
      cases readToo with
      | pointed operandToo =>
          obtain ⟨rfl, rfl⟩ := ih operandToo
          exact ⟨rfl, rfl⟩
  | cast operand ih =>
      cases readToo with
      | cast operandToo =>
          obtain ⟨rfl, rfl⟩ := ih operandToo
          exact ⟨rfl, rfl⟩
      | parenthesized inner more => exact absurd inner Reads.not_typeName
  | pointerCast operand ih =>
      cases readToo with
      | pointerCast operandToo =>
          obtain ⟨rfl, rfl⟩ := ih operandToo
          exact ⟨rfl, rfl⟩
      | parenthesized inner more => exact absurd inner Reads.not_typeName
  | parenthesized inner more innerIh moreIh =>
      cases readToo with
      | parenthesized innerToo moreToo =>
          obtain ⟨rfl, same⟩ := innerIh innerToo
          obtain rfl := (List.cons.inj same).2
          exact moreIh moreToo
      | cast operandToo => exact absurd inner Reads.not_typeName
      | pointerCast operandToo => exact absurd inner Reads.not_typeName
  | number more ih =>
      cases readToo with
      | number moreToo => exact ih moreToo
  | text more ih =>
      cases readToo with
      | text moreToo => exact ih moreToo
  | name more ih =>
      cases readToo with
      | name moreToo => exact ih moreToo
  | element index more indexIh moreIh =>
      cases readToo with
      | element indexToo moreToo =>
          obtain ⟨rfl, same⟩ := indexIh indexToo
          obtain rfl := (List.cons.inj same).2
          exact moreIh moreToo
      | suffixesEnd ends => cases ends
  | field more ih =>
      cases readToo with
      | field moreToo => exact ih moreToo
      | suffixesEnd ends => cases ends
  | call arguments more argumentsIh moreIh =>
      cases readToo with
      | call argumentsToo moreToo =>
          obtain ⟨rfl, same⟩ := argumentsIh argumentsToo
          obtain rfl := (List.cons.inj same).2
          exact moreIh moreToo
      | suffixesEnd ends => cases ends
  | suffixesEnd ends =>
      cases readToo with
      | suffixesEnd endsToo => exact ⟨rfl, rfl⟩
      | element index more => cases ends
      | field more => cases ends
      | call arguments more => cases ends
  | oneArgument argument ends ih =>
      cases readToo with
      | oneArgument argumentToo endsToo => exact ih argumentToo
      | moreArguments first more =>
          obtain ⟨-, rfl⟩ := ih first
          exact absurd rfl ends
  | moreArguments first more firstIh moreIh =>
      cases readToo with
      | oneArgument argument ends =>
          obtain ⟨-, rfl⟩ := firstIh argument
          exact absurd rfl ends
      | moreArguments firstToo moreToo =>
          obtain ⟨rfl, same⟩ := firstIh firstToo
          obtain rfl := (List.cons.inj same).2
          obtain ⟨rfl, rfl⟩ := moreIh moreToo
          exact ⟨rfl, rfl⟩

/-- Whether an operand can start. -/
def startsOperand : List Terminal → Bool
  | .number _ :: _ | .text _ :: _ | .name _ :: _ => true
  | .mark .bang :: _ | .mark .minus :: _ | .mark .plus :: _ | .mark .star :: _ => true
  | .mark .opening :: _ => true
  | _ => false

theorem Reads.startsOperand {level : Nat} {ts rest : List Terminal} {x : Expr}
    (read : Reads (.expression level) ts x rest) : startsOperand ts = true := by
  cases read with
  | expression first more => cases first <;> rfl

/-! ### Statements -/

/-- A statement, or several of them. -/
inductive Code where
  | nothing
  /-- A statement and those after it. -/
  | followed (first rest : Code)
  | block (body : Code)
  | conditional (condition : Expr) (body : Code)
  | jump (label : String)
  | declare (type name : String)
  /-- A declaration with an initial value. -/
  | define (type name : String) (value : Expr)
  | assign (target value : Expr)
  /-- An expression that is evaluated for what it does. -/
  | perform (expression : Expr)
  deriving DecidableEq, Repr

/-- What is read of statements. -/
inductive CodePhrase where
  | statement
  /-- The statements up to a closing brace. -/
  | statements
  deriving DecidableEq, Repr

/-- **The statements at the start of a list of terminals**, and what is left after them. -/
inductive ReadsCode : CodePhrase → List Terminal → Code → List Terminal → Prop
  | block {ts rest : List Terminal} {body : Code}
      (inner : ReadsCode .statements ts body (.mark .closingBrace :: rest)) :
      ReadsCode .statement (.mark .openingBrace :: ts) (.block body) rest
  | conditional {ts us rest : List Terminal} {x : Expr} {body : Code}
      (condition : Reads (.expression 0) ts x (.mark .closing :: us))
      (inner : ReadsCode .statement us body rest) :
      ReadsCode .statement (.ifWord :: .mark .opening :: ts) (.conditional x body) rest
  | jump {label : String} {rest : List Terminal} :
      ReadsCode .statement (.gotoWord :: .name label :: .mark .semicolon :: rest) (.jump label) rest
  | declare {type name : String} {rest : List Terminal} :
      ReadsCode .statement (.typeName type :: .name name :: .mark .semicolon :: rest)
        (.declare type name) rest
  | define {type name : String} {ts rest : List Terminal} {x : Expr}
      (value : Reads (.expression 0) ts x (.mark .semicolon :: rest)) :
      ReadsCode .statement (.typeName type :: .name name :: .mark .assign :: ts)
        (.define type name x) rest
  | assign {ts us rest : List Terminal} {x y : Expr}
      (target : Reads (.expression 0) ts x (.mark .assign :: us))
      (value : Reads (.expression 0) us y (.mark .semicolon :: rest)) :
      ReadsCode .statement ts (.assign x y) rest
  | perform {ts rest : List Terminal} {x : Expr}
      (expression : Reads (.expression 0) ts x (.mark .semicolon :: rest)) :
      ReadsCode .statement ts (.perform x) rest
  | nothing {rest : List Terminal} :
      ReadsCode .statements (.mark .closingBrace :: rest) .nothing (.mark .closingBrace :: rest)
  | followed {ts us rest : List Terminal} {first more : Code}
      (statement : ReadsCode .statement ts first us)
      (others : ReadsCode .statements us more rest) :
      ReadsCode .statements ts (.followed first more) rest

/-- A statement does not start with a closing brace. -/
theorem ReadsCode.not_closingBrace {ts rest : List Terminal} {code : Code} :
    ¬ReadsCode .statement (.mark .closingBrace :: ts) code rest := by
  intro read
  cases read with
  | assign target value => exact absurd target.startsOperand (by simp [startsOperand])
  | perform expression => exact absurd expression.startsOperand (by simp [startsOperand])

/-- **Statements have one reading at most.** -/
theorem ReadsCode.unique {phrase : CodePhrase} {ts rest other : List Terminal} {code codeToo : Code}
    (read : ReadsCode phrase ts code rest) (readToo : ReadsCode phrase ts codeToo other) :
    code = codeToo ∧ rest = other := by
  induction read generalizing codeToo other with
  | block inner ih =>
      cases readToo with
      | block innerToo =>
          obtain ⟨rfl, same⟩ := ih innerToo
          exact ⟨rfl, (List.cons.inj same).2⟩
      | assign target value => exact absurd target.startsOperand (by simp [startsOperand])
      | perform expression => exact absurd expression.startsOperand (by simp [startsOperand])
  | conditional condition inner ih =>
      cases readToo with
      | conditional conditionToo innerToo =>
          obtain ⟨rfl, same⟩ := condition.unique conditionToo
          obtain rfl := (List.cons.inj same).2
          obtain ⟨rfl, rfl⟩ := ih innerToo
          exact ⟨rfl, rfl⟩
      | assign target value => exact absurd target.startsOperand (by simp [startsOperand])
      | perform expression => exact absurd expression.startsOperand (by simp [startsOperand])
  | jump =>
      cases readToo with
      | jump => exact ⟨rfl, rfl⟩
      | assign target value => exact absurd target.startsOperand (by simp [startsOperand])
      | perform expression => exact absurd expression.startsOperand (by simp [startsOperand])
  | declare =>
      cases readToo with
      | declare => exact ⟨rfl, rfl⟩
      | assign target value => exact absurd target.startsOperand (by simp [startsOperand])
      | perform expression => exact absurd expression.startsOperand (by simp [startsOperand])
  | define value =>
      cases readToo with
      | define valueToo =>
          obtain ⟨rfl, same⟩ := value.unique valueToo
          exact ⟨rfl, (List.cons.inj same).2⟩
      | assign target value => exact absurd target.startsOperand (by simp [startsOperand])
      | perform expression => exact absurd expression.startsOperand (by simp [startsOperand])
  | assign target value =>
      have starts := target.startsOperand
      cases readToo with
      | assign targetToo valueToo =>
          obtain ⟨rfl, same⟩ := target.unique targetToo
          obtain rfl := (List.cons.inj same).2
          obtain ⟨rfl, same⟩ := value.unique valueToo
          exact ⟨rfl, (List.cons.inj same).2⟩
      | perform expression => exact absurd (target.unique expression).2 (by simp)
      | _ => exact absurd starts (by simp [startsOperand])
  | perform expression =>
      have starts := expression.startsOperand
      cases readToo with
      | perform expressionToo =>
          obtain ⟨rfl, same⟩ := expression.unique expressionToo
          exact ⟨rfl, (List.cons.inj same).2⟩
      | assign target value => exact absurd (expression.unique target).2 (by simp)
      | _ => exact absurd starts (by simp [startsOperand])
  | nothing =>
      cases readToo with
      | nothing => exact ⟨rfl, rfl⟩
      | followed statement others => exact absurd statement ReadsCode.not_closingBrace
  | followed statement others statementIh othersIh =>
      cases readToo with
      | nothing => exact absurd statement ReadsCode.not_closingBrace
      | followed statementToo othersToo =>
          obtain ⟨rfl, rfl⟩ := statementIh statementToo
          obtain ⟨rfl, rfl⟩ := othersIh othersToo
          exact ⟨rfl, rfl⟩

/-- A text inside a function, and the statements it consists of. -/
def SpellsCode (text : String) (code : Code) : Prop :=
  ∃ ts, terminals text.toList = some ts ∧
    ReadsCode .statements (ts ++ [.mark .closingBrace]) code [.mark .closingBrace]

theorem SpellsCode.unique {text : String} {code codeToo : Code} (spells : SpellsCode text code)
    (spellsToo : SpellsCode text codeToo) : code = codeToo := by
  obtain ⟨ts, cut, read⟩ := spells
  obtain ⟨us, cutToo, readToo⟩ := spellsToo
  obtain rfl := Option.some.inj (cut.symm.trans cutToo)
  exact (read.unique readToo).1

/-! ### Functions -/

/-- A function without a result. -/
structure Function where
  name : String
  parameters : List String
  body : Code
  deriving DecidableEq, Repr

/-- A parameter at the start, which may be a pointer. -/
inductive ReadsParameter : List Terminal → String → List Terminal → Prop
  | value {type name : String} {rest : List Terminal} :
      ReadsParameter (.typeName type :: .name name :: rest) name rest
  | pointer {type name : String} {rest : List Terminal} :
      ReadsParameter (.typeName type :: .mark .star :: .name name :: rest) name rest

/-- Parameters up to the closing parenthesis. -/
inductive ReadsParameters : List Terminal → List String → List Terminal → Prop
  | last {ts rest : List Terminal} {name : String}
      (parameter : ReadsParameter ts name (.mark .closing :: rest)) :
      ReadsParameters ts [name] rest
  | more {ts us rest : List Terminal} {name : String} {names : List String}
      (parameter : ReadsParameter ts name (.mark .comma :: us))
      (others : ReadsParameters us names rest) : ReadsParameters ts (name :: names) rest

/-- **The functions that a list of terminals defines.** -/
inductive ReadsUnit : List Terminal → List Function → Prop
  | nothing : ReadsUnit [] []
  | function {name : String} {names : List String} {ts us rest : List Terminal} {body : Code}
      {unit : List Function} (parameters : ReadsParameters ts names us)
      (block : ReadsCode .statement us (.block body) rest) (others : ReadsUnit rest unit) :
      ReadsUnit (.typeName "void" :: .name name :: .mark .opening :: ts)
        (⟨name, names, body⟩ :: unit)
  | static {type : String} {ts : List Terminal} {unit : List Function}
      (function : ReadsUnit (.typeName type :: ts) unit) :
      ReadsUnit (.staticWord :: .typeName type :: ts) unit

theorem ReadsParameter.unique {ts rest other : List Terminal} {name nameToo : String}
    (read : ReadsParameter ts name rest) (readToo : ReadsParameter ts nameToo other) :
    name = nameToo ∧ rest = other := by
  cases read with
  | value => cases readToo; exact ⟨rfl, rfl⟩
  | pointer => cases readToo; exact ⟨rfl, rfl⟩

theorem ReadsParameters.unique {ts rest other : List Terminal} {names namesToo : List String}
    (read : ReadsParameters ts names rest) (readToo : ReadsParameters ts namesToo other) :
    names = namesToo ∧ rest = other := by
  induction read generalizing namesToo other with
  | last parameter =>
      cases readToo with
      | last parameterToo =>
          obtain ⟨rfl, same⟩ := parameter.unique parameterToo
          exact ⟨rfl, (List.cons.inj same).2⟩
      | more parameterToo others => exact absurd (parameter.unique parameterToo).2 (by simp)
  | more parameter others ih =>
      cases readToo with
      | last parameterToo => exact absurd (parameter.unique parameterToo).2 (by simp)
      | more parameterToo othersToo =>
          obtain ⟨rfl, same⟩ := parameter.unique parameterToo
          obtain rfl := (List.cons.inj same).2
          obtain ⟨rfl, rfl⟩ := ih othersToo
          exact ⟨rfl, rfl⟩

/-- **A file has one reading at most.** -/
theorem ReadsUnit.unique {ts : List Terminal} {unit unitToo : List Function}
    (read : ReadsUnit ts unit) (readToo : ReadsUnit ts unitToo) : unit = unitToo := by
  induction read generalizing unitToo with
  | nothing => cases readToo; rfl
  | function parameters block others ih =>
      cases readToo with
      | function parametersToo blockToo othersToo =>
          obtain ⟨rfl, rfl⟩ := parameters.unique parametersToo
          obtain ⟨same, rfl⟩ := block.unique blockToo
          rw [Code.block.inj same, ih othersToo]
  | static function ih =>
      cases readToo with
      | static functionToo => exact ih functionToo

/-- A text, and the functions that it defines. -/
def Spells (text : String) (unit : List Function) : Prop :=
  ∃ ts, terminals text.toList = some ts ∧ ReadsUnit ts unit

theorem Spells.unique {text : String} {unit unitToo : List Function} (spells : Spells text unit)
    (spellsToo : Spells text unitToo) : unit = unitToo := by
  obtain ⟨ts, cut, read⟩ := spells
  obtain ⟨us, cutToo, readToo⟩ := spellsToo
  obtain rfl := Option.some.inj (cut.symm.trans cutToo)
  exact read.unique readToo

end ForeignGlue.CSource
