/-
Tokens of a bound expression.

A bound is written in the foreign language. It is cut into numbers, names and whatever stands
between them; the cut is by maximal munch from the left, a number being tried before a name. The
texts of the tokens, put together, are the expression again (`flatMap_tokensFrom`).
-/

import ForeignGlue.Text.Basic

namespace ForeignGlue.Expression

open ForeignGlue.Text

/-- What a token is. -/
inductive Kind where
  /-- A number, with or without a fraction and an exponent. -/
  | number
  /-- A name. -/
  | name
  /-- Operators, parentheses, commas and blanks, in a maximal run. -/
  | other
  deriving DecidableEq, Repr

/-- A lexical piece of a bound expression. -/
structure Token where
  kind : Kind
  chars : List Char
  deriving DecidableEq, Repr

namespace Token

/-- The text of a token. -/
def text (token : Token) : String :=
  String.ofList token.chars

end Token

/-! ### How far a token reaches -/

/-- The number of decimal digits at the start. -/
def digitRun (cs : List Char) : Nat :=
  (cs.takeWhile isDecimalDigit).length

/-- The length of an optional sign followed by digits, zero if no digit follows. -/
def signedDigitRun : List Char → Nat
  | [] => 0
  | c :: cs =>
    if c == '+' || c == '-' then
      if digitRun cs = 0 then 0 else digitRun cs + 1
    else digitRun (c :: cs)

/-- The length of an exponent at the start, zero if there is none. Both `e` and `d` mark one. -/
def exponentLength : List Char → Nat
  | [] => 0
  | c :: cs =>
    if c == 'e' || c == 'E' || c == 'd' || c == 'D' then
      if signedDigitRun cs = 0 then 0 else signedDigitRun cs + 1
    else 0

/-- The length of a point and the digits after it, zero if no point stands at the start. -/
def pointLength : List Char → Nat
  | [] => 0
  | c :: cs => if c == '.' then digitRun cs + 1 else 0

/-- The length of the digits and the point of a number, zero if there is no digit next to a point. -/
def mantissaLength (cs : List Char) : Nat :=
  if digitRun cs = 0 then
    if pointLength cs = 1 then 0 else pointLength cs
  else digitRun cs + pointLength (cs.drop (digitRun cs))

/-- The length of the longest number at the start, zero if there is none. -/
def numberLength (cs : List Char) : Nat :=
  if mantissaLength cs = 0 then 0
  else mantissaLength cs + exponentLength (cs.drop (mantissaLength cs))

/-- The length of the longest name at the start, zero if there is none. -/
def nameLength : List Char → Nat
  | [] => 0
  | c :: cs => if isNameStart c then (cs.takeWhile isNameChar).length + 1 else 0

/-! ### Cutting an expression -/

/-- One more character in front of what comes between numbers and names. -/
def consOther (c : Char) : List Token → List Token
  | ⟨.other, cs⟩ :: tokens => ⟨.other, c :: cs⟩ :: tokens
  | tokens => ⟨.other, [c]⟩ :: tokens

/-- The tokens of the characters after the first `skip`, which belong to the token before them. -/
def tokensFrom : Nat → List Char → List Token
  | _, [] => []
  | skip + 1, _ :: cs => tokensFrom skip cs
  | 0, c :: cs =>
    if numberLength (c :: cs) ≠ 0 then
      ⟨.number, (c :: cs).take (numberLength (c :: cs))⟩ ::
        tokensFrom (numberLength (c :: cs) - 1) cs
    else if nameLength (c :: cs) ≠ 0 then
      ⟨.name, (c :: cs).take (nameLength (c :: cs))⟩ :: tokensFrom (nameLength (c :: cs) - 1) cs
    else consOther c (tokensFrom 0 cs)

/-- The tokens of an expression. -/
def tokens (expression : String) : List Token :=
  tokensFrom 0 expression.toList

/-- The names an expression mentions, in order, with repetitions. -/
def names (expression : String) : List String :=
  ((tokens expression).filter fun token => token.kind == .name).map Token.text

/-- Whether an expression mentions no name. -/
def isLiteral (expression : String) : Bool :=
  (names expression).isEmpty

/-! ### The cut loses nothing -/

theorem tokensFrom_eq_drop (skip : Nat) (cs : List Char) :
    tokensFrom skip cs = tokensFrom 0 (cs.drop skip) :=
  Text.scan_eq_drop (fun _ => by rw [tokensFrom, tokensFrom]) (fun _ _ _ => by rw [tokensFrom]) skip cs

theorem flatMap_consOther (c : Char) (tokens : List Token) :
    (consOther c tokens).flatMap Token.chars = c :: tokens.flatMap Token.chars := by
  unfold consOther
  split <;> simp

/-- **The cut loses nothing**: the characters of the tokens are those of the expression. -/
theorem flatMap_tokensFrom (cs : List Char) : (tokensFrom 0 cs).flatMap Token.chars = cs := by
  induction size : cs.length using Nat.strongRecOn generalizing cs with
  | ind n ih =>
      cases cs with
      | nil => simp [tokensFrom]
      | cons c cs =>
          have step (k : Nat) (positive : k ≠ 0) :
              (c :: cs).take k ++ (tokensFrom (k - 1) cs).flatMap Token.chars = c :: cs := by
            obtain ⟨k, rfl⟩ := Nat.exists_eq_succ_of_ne_zero positive
            have shorter : (cs.drop k).length < n := by simp at size ⊢; omega
            rw [Nat.succ_sub_one, tokensFrom_eq_drop, ih _ shorter _ rfl]
            simp
          rw [tokensFrom]
          split
          · next positive => simpa using step _ positive
          · split
            · next positive => simpa using step _ positive
            · rw [flatMap_consOther, ih cs.length (by simp at size; omega) cs rfl]

end ForeignGlue.Expression
