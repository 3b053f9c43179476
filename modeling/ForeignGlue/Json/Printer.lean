/-
How a JSON tree is written.

The laid-out form has one item or member a line, two more blanks of indentation a level, and a blank
after each colon; an empty list or object stays on its line. The compact form has no blanks.
-/

import ForeignGlue.Json.Basic

namespace ForeignGlue.Json

/-- A spelling between quotes. -/
def inQuotes (quoted : List Char) : String :=
  "\"" ++ String.ofList quoted ++ "\""

/-- A new line, indented to a level. -/
def newLine (level : Nat) : String :=
  String.ofList ('\n' :: List.replicate (2 * level) ' ')

mutual

/-- The laid-out form of a value that stands at a level. -/
def layOut (level : Nat) : Json → String
  | .null => "null"
  | .bool value => if value then "true" else "false"
  | .number lexeme => String.ofList lexeme
  | .string quoted => inQuotes quoted
  | .array [] => "[]"
  | .array (item :: items) =>
    "[" ++ newLine (level + 1) ++ layOut (level + 1) item ++ layOutItems (level + 1) items ++
      newLine level ++ "]"
  | .object [] => "\x7b\x7d"
  | .object ((key, value) :: members) =>
    "\x7b" ++ newLine (level + 1) ++ inQuotes key ++ ": " ++ layOut (level + 1) value ++
      layOutMembers (level + 1) members ++ newLine level ++ "\x7d"

/-- The items of a list after the first. -/
def layOutItems (level : Nat) : List Json → String
  | [] => ""
  | item :: items => "," ++ newLine level ++ layOut level item ++ layOutItems level items

/-- The members of an object after the first. -/
def layOutMembers (level : Nat) : List (List Char × Json) → String
  | [] => ""
  | (key, value) :: members =>
    "," ++ newLine level ++ inQuotes key ++ ": " ++ layOut level value ++
      layOutMembers level members

end

/-- The laid-out form of a value. -/
def pretty (value : Json) : String :=
  layOut 0 value

mutual

/-- The compact form of a value. -/
def compact : Json → String
  | .null => "null"
  | .bool value => if value then "true" else "false"
  | .number lexeme => String.ofList lexeme
  | .string quoted => inQuotes quoted
  | .array [] => "[]"
  | .array (item :: items) => "[" ++ compact item ++ compactItems items ++ "]"
  | .object [] => "\x7b\x7d"
  | .object ((key, value) :: members) =>
    "\x7b" ++ inQuotes key ++ ":" ++ compact value ++ compactMembers members ++ "\x7d"

/-- The items of a list after the first. -/
def compactItems : List Json → String
  | [] => ""
  | item :: items => "," ++ compact item ++ compactItems items

/-- The members of an object after the first. -/
def compactMembers : List (List Char × Json) → String
  | [] => ""
  | (key, value) :: members =>
    "," ++ inQuotes key ++ ":" ++ compact value ++ compactMembers members

end

end ForeignGlue.Json
