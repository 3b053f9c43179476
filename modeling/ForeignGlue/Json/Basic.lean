/-
JSON trees and how a text is read as one.

The reader is a machine that takes one token at a time. Its states say what may come next; open
lists and objects wait on a stack. It never looks ahead and never goes back, so reading is a fold
over the tokens.
-/

import ForeignGlue.Json.Token

namespace ForeignGlue

/-- A JSON value. Members of an object keep their order, and a key may occur twice. -/
inductive Json where
  | null
  | bool (value : Bool)
  /-- A number, as it is spelled. -/
  | number (lexeme : List Char)
  /-- A string, as it is spelled between its quotes. -/
  | string (quoted : List Char)
  | array (items : List Json)
  | object (members : List (List Char × Json))
  deriving Inhabited

namespace Json

/-! ### The reader -/

/-- A list or an object that is not closed yet. What it holds so far is kept last first. -/
inductive Frame where
  | array (items : List Json)
  /-- An object that waits for the value of `key`. -/
  | object (members : List (List Char × Json)) (key : List Char)

/-- What the reader waits for. -/
inductive State where
  /-- A value; if `closable`, the list on top of the stack may be closed instead. -/
  | value (frames : List Frame) (closable : Bool)
  /-- A key of an object; if `closable`, the object may be closed instead. -/
  | key (frames : List Frame) (members : List (List Char × Json)) (closable : Bool)
  /-- The colon after a key. -/
  | colon (frames : List Frame) (members : List (List Char × Json)) (key : List Char)
  /-- What may follow a complete value. -/
  | done (frames : List Frame) (value : Json)

/-- The next state, where a value may come. -/
def stepValue (frames : List Frame) (closable : Bool) : Token → Option State
  | .null => some (.done frames .null)
  | .bool value => some (.done frames (.bool value))
  | .number lexeme => some (.done frames (.number lexeme))
  | .string quoted => some (.done frames (.string quoted))
  | .openBracket => some (.value (.array [] :: frames) true)
  | .openBrace => some (.key frames [] true)
  | .closeBracket =>
    match closable, frames with
    | true, .array items :: outer => some (.done outer (.array items.reverse))
    | _, _ => none
  | _ => none

/-- The next state, where a key may come. -/
def stepKey (frames : List Frame) (members : List (List Char × Json)) (closable : Bool) :
    Token → Option State
  | .string key => some (.colon frames members key)
  | .closeBrace => if closable then some (.done frames (.object members.reverse)) else none
  | _ => none

/-- The next state after a complete value. -/
def stepDone (value : Json) : List Frame → Token → Option State
  | .array items :: outer, .comma => some (.value (.array (value :: items) :: outer) false)
  | .array items :: outer, .closeBracket => some (.done outer (.array (value :: items).reverse))
  | .object members key :: outer, .comma => some (.key outer ((key, value) :: members) false)
  | .object members key :: outer, .closeBrace =>
    some (.done outer (.object ((key, value) :: members).reverse))
  | _, _ => none

/-- The next state; `none` if the token may not come. -/
def step (state : State) (token : Token) : Option State :=
  match state with
  | .value frames closable => stepValue frames closable token
  | .key frames members closable => stepKey frames members closable token
  | .colon frames members key =>
    match token with
    | .colon => some (.value (.object members key :: frames) false)
    | _ => none
  | .done frames value => stepDone value frames token

/-- The value of a text that is over; `none` if something is missing. -/
def State.finish : State → Option Json
  | .done [] result => some result
  | _ => none

/-- The value that a text spells. -/
def parse (text : String) : Option Json := do
  let tokens ← tokens text
  let state ← tokens.foldlM step (.value [] false)
  state.finish

/-! ### What a value stands for -/

/-- The string that a value is. -/
def text? : Json → Option String
  | .string quoted => unquote quoted
  | _ => none

/-- The truth value that a value is. -/
def bool? : Json → Option Bool
  | .bool value => some value
  | _ => none

/-- The items of a list. -/
def items? : Json → Option (List Json)
  | .array items => some items
  | _ => none

/-- The number that decimal digits spell. -/
def digitsValue (digits : List Char) : Nat :=
  digits.foldl (fun value digit => 10 * value + (digit.toNat - 48)) 0

/-- The natural number that a value is: digits alone, with no sign, point or exponent. -/
def nat? : Json → Option Nat
  | .number lexeme => if lexeme.all Char.isDigit then some (digitsValue lexeme) else none
  | _ => none

/-- The integer that a value is: digits, with a sign only if it is negative. -/
def int? : Json → Option Int
  | .number ('-' :: digits) =>
    if digits.all Char.isDigit && digitsValue digits != 0 then some (-(digitsValue digits : Int))
    else none
  | value => value.nat?.map Int.ofNat

/-- The members of an object, with the keys they stand for. -/
def members? : Json → Option (List (String × Json))
  | .object members => members.mapM fun (key, value) => (unquote key).map (·, value)
  | _ => none

/-! ### Building values -/

/-- A string value. -/
def ofText (text : String) : Json :=
  .string (quote text)

/-- A natural number. -/
def ofNat (n : Nat) : Json :=
  .number (Nat.toDigits 10 n)

/-- An integer. -/
def ofInt : Int → Json
  | .ofNat n => ofNat n
  | .negSucc n => .number ('-' :: Nat.toDigits 10 (n + 1))

/-- A value that may be absent. -/
def ofOption {α : Type} (encode : α → Json) : Option α → Json
  | none => .null
  | some value => encode value

/-- A list of values. -/
def ofList {α : Type} (encode : α → Json) (values : List α) : Json :=
  .array (values.map encode)

/-- An object with the given members. -/
def ofMembers (members : List (String × Json)) : Json :=
  .object (members.map fun (key, value) => (quote key, value))

end Json

end ForeignGlue
