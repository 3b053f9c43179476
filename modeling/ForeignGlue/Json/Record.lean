/-
JSON values as records, maps and choices.

A record is an object with the record's fields, or a list of its fields in order. Fields that it
does not have are ignored in an object, but a field may not be given twice. Keys must have a value
as text even where they are ignored. A choice is its name, or an object with its name alone as key.
-/

import ForeignGlue.Json.Basic

namespace ForeignGlue.Json

/-- The fields of a record, of which at least `required` must be there if it is written as a list.
A field that is not given is `none`. -/
def fields? (names : List String) (required : Nat) (value : Json) : Option (List (Option Json)) :=
  match value with
  | .object _ => do
    let members ← value.members?
    names.mapM fun name =>
      match members.filter fun member => member.1 == name with
      | [] => some none
      | [member] => some (some member.2)
      | _ => none
  | .array items =>
    if required ≤ items.length && items.length ≤ names.length then
      some (items.map some ++ List.replicate (names.length - items.length) none)
    else none
  | _ => none

/-- The value of a field that must be given. -/
def required? {α : Type} (decode : Json → Option α) (field : Option Json) : Option α :=
  field.bind decode

/-- The value of a field that has a default. -/
def default? {α : Type} (decode : Json → Option α) (default : α) : Option Json → Option α
  | none => some default
  | some value => decode value

/-- A value that may be `null`. -/
def optional? {α : Type} (decode : Json → Option α) : Json → Option (Option α)
  | .null => some none
  | value => (decode value).map some

/-- The items of a list. -/
def list? {α : Type} (decode : Json → Option α) (value : Json) : Option (List α) := do
  let items ← value.items?
  items.mapM decode

/-- The name of a choice, and what is given with it. -/
def choice? (value : Json) : Option (String × Option Json) :=
  match value with
  | .string quoted => (unquote quoted).map (·, none)
  | .object [(key, content)] => (unquote key).map (·, some content)
  | _ => none

/-- Whether nothing is given with a choice. -/
def isBare : Option Json → Bool
  | none => true
  | some .null => true
  | some _ => false

end ForeignGlue.Json
