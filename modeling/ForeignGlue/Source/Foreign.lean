/-
Foreign source.

A statement is laid out in the dialect (fixed-form statements start in column 7, macro lines where
they are given), broken into as many lines as it needs, and ended. A statement that cannot be broken
is not written at all.
-/

import ForeignGlue.Source.Continuation
import ForeignGlue.Source.Draft

namespace ForeignGlue.Source

open ForeignGlue.Text

/-- A line to be written. -/
inductive Line where
  /-- A statement of the language. -/
  | statement (text : String)
  /-- A line for the preprocessor. -/
  | directive (text : String)
  deriving DecidableEq, Repr

namespace Line

/-- The line as it is laid out before it is broken. -/
def layOut (dialect : Dialect) : Line → String
  | .statement text =>
    match dialect with
    | .free => text
    | .fixed => "      " ++ trimStart text
  | .directive text => text

/-- The lines that are written for a line, each with its end. -/
def write (dialect : Dialect) (line : Line) : Except GenerationError String :=
  (breakLine dialect (line.layOut dialect)).map (· ++ "\n")

end Line

/-- Foreign source that is being written. -/
structure ForeignText where
  dialect : Dialect
  text : String := ""
  deriving DecidableEq, Repr

namespace ForeignText

/-- Writes a line, if it can be broken: the source after it, and whether the line was written. -/
def put (source : ForeignText) (line : Line) : ForeignText × Except GenerationError Unit :=
  match line.write source.dialect with
  | .error error => (source, .error error)
  | .ok added => ({ source with text := source.text ++ added }, .ok ())

/-- Writes lines one after the other, up to the first that cannot be written. -/
def putAll (source : ForeignText) : List Line → ForeignText × Except GenerationError Unit
  | [] => (source, .ok ())
  | line :: lines =>
    match source.put line with
    | (after, .error error) => (after, .error error)
    | (after, .ok ()) => after.putAll lines

end ForeignText

/-! ### Statements -/

/-- The axes of a declared variable. -/
inductive Axes where
  /-- No axis is written. -/
  | none
  /-- Axes of a pointer, whose extents are given later. -/
  | deferred (count : Nat)
  /-- Axes as they are declared. -/
  | declared (shape : String)
  deriving DecidableEq, Repr

/-- The text of the axes. -/
def Axes.text : Axes → String
  | .none => ""
  | .deferred count => "(" ++ join "," (List.replicate count ":") ++ ")"
  | .declared shape => shape

/-- The declaration of a module variable. -/
structure VariableDeclaration where
  /-- The type, and the attribute of a pointer. -/
  type : String
  pointer : String := ""
  save : String := ""
  name : String
  axes : Axes := .none
  /-- The initial value after its equals sign, if there is one. -/
  value : Option String := .none
  deriving DecidableEq, Repr

/-- The text of a declaration. -/
def VariableDeclaration.text (declaration : VariableDeclaration) : String :=
  declaration.type ++ declaration.pointer ++ declaration.save ++ "::" ++ declaration.name ++
    declaration.axes.text ++
    match declaration.value with
    | some value => "=" ++ value
    | .none => ""

/-- A statement of the foreign language. -/
inductive Statement where
  /-- The head of a subroutine. -/
  | subroutine (name : String) (parameters : List String)
  /-- The head of a module. -/
  | moduleStart (name : String)
  /-- The end of a module. -/
  | moduleEnd (name : String)
  /-- Makes the variables of a module known. -/
  | use (module : String)
  /-- The same, by a preprocessor macro. -/
  | useMacro (indent : Nat) (group : String)
  | call (indent : Nat) (callee : String) (arguments : List String)
  /-- Puts a pointer into a known state. -/
  | nullify (name : String)
  | declare (declaration : VariableDeclaration)
  /-- Gives a variable its initial value. -/
  | data (indent : Nat) (name : String) (initializer : String)
  /-- Any other statement. -/
  | plain (text : String)
  deriving DecidableEq, Repr

/-- A run of blanks. -/
def blanks (count : Nat) : String :=
  String.ofList (List.replicate count ' ')

/-- The line that a statement is written on. -/
def Statement.line : Statement → Line
  | .subroutine name parameters =>
    .statement ("SUBROUTINE " ++ name ++ "(" ++ join "," parameters ++ ")")
  | .moduleStart name => .statement ("MODULE " ++ name)
  | .moduleEnd name => .statement ("END MODULE " ++ name)
  | .use module => .statement ("  USE " ++ module)
  | .useMacro indent group => .directive (blanks indent ++ "Use(" ++ group ++ ")")
  | .call indent callee arguments =>
    .statement (blanks indent ++ "call " ++ callee ++ "(" ++ join "," arguments ++ ")")
  | .nullify name => .statement ("  NULLIFY(" ++ name ++ ")")
  | .declare declaration => .statement ("  " ++ declaration.text)
  | .data indent name initializer =>
    .statement (blanks indent ++ "data " ++ name ++ flattenLines initializer)
  | .plain text => .statement text

/-- The text of statements in a dialect. -/
def layOutStatements (dialect : Dialect) (statements : Draft Statement) : Draft String :=
  statements.refine fun statement => statement.line.write dialect

end ForeignGlue.Source
