/-
**Lines of foreign source, spelled out.**

A statement is written on one line before it is broken. In free form the line is the text of the statement
with its own indentation, in fixed form the text from column seven on.

* `layOut_indented`: the line of a text that starts after some blanks;
* `layOut_subroutine`, `layOut_call`, `layOut_use`, `layOut_nullify`: the lines of the statements by which
  the two sides of a module find each other.
-/

import ForeignGlue.Source.Foreign

namespace ForeignGlue

open ForeignGlue.Source ForeignGlue.Text

/-- What stands before a statement: in fixed form it starts in column 7. -/
def Dialect.margin : Dialect → String
  | .free => ""
  | .fixed => "      "

/-- What stands before a statement that is indented, which shows in free form only. -/
def Dialect.indentation : Dialect → Nat → String
  | .free, count => String.ofList (List.replicate count ' ')
  | .fixed, _ => "      "

/-- The line of a subroutine's head. -/
def headLine (dialect : Dialect) (symbol : String) (parameters : List String) : String :=
  dialect.margin ++ ("SUBROUTINE " ++ symbol ++ "(" ++ join "," parameters ++ ")")

/-- The line of a call. -/
def callingLine (dialect : Dialect) (indent : Nat) (callee : String) (arguments : List String) : String :=
  dialect.indentation indent ++ ("call " ++ callee ++ "(" ++ join "," arguments ++ ")")

/-- The line that makes a module known. -/
def useLine (dialect : Dialect) (module : String) : String :=
  dialect.indentation 2 ++ ("USE " ++ module)

/-- The line that clears a pointer. -/
def nullifyLine (dialect : Dialect) (name : String) : String :=
  dialect.indentation 2 ++ ("NULLIFY(" ++ name ++ ")")

/-- **The line of an indented text.** Fixed form takes off the blanks before the first character that is
none, and nothing else. -/
theorem layOut_indented (dialect : Dialect) (indent : Nat) (text : String) {first : Char}
    {rest : List Char} (starts : text.toList = first :: rest) (visible : isBlank first = false) :
    (Line.statement (blanks indent ++ text)).layOut dialect = dialect.indentation indent ++ text := by
  cases dialect with
  | free => rfl
  | fixed =>
      have kept : trimStart (blanks indent ++ text) = text := by
        refine String.toList_inj.mp ?_
        rw [trimStart, trimStartChars, String.toList_ofList, String.toList_append, blanks,
          String.toList_ofList, List.dropWhile_append_of_pos (by simp +decide), starts,
          List.dropWhile_cons_of_neg (by simp [visible])]
      exact congrArg ("      " ++ ·) kept

theorem layOut_subroutine (dialect : Dialect) (symbol : String) (parameters : List String) :
    (Statement.subroutine symbol parameters).line.layOut dialect =
      headLine dialect symbol parameters := by
  have line := layOut_indented dialect 0
    ("SUBROUTINE " ++ symbol ++ "(" ++ join "," parameters ++ ")")
    (by simp only [String.append_assoc, String.toList_append]; rfl) (by decide)
  have none : dialect.indentation 0 = dialect.margin := by cases dialect <;> rfl
  rw [none] at line
  exact (congrArg (fun text => (Line.statement text).layOut dialect) String.empty_append.symm).trans line

theorem layOut_call (dialect : Dialect) (indent : Nat) (callee : String) (arguments : List String) :
    (Statement.call indent callee arguments).line.layOut dialect =
      callingLine dialect indent callee arguments := by
  have line := layOut_indented dialect indent
    ("call " ++ callee ++ "(" ++ join "," arguments ++ ")")
    (by simp only [String.append_assoc, String.toList_append]; rfl) (by decide)
  rw [callingLine, ← line, Statement.line]
  simp only [String.append_assoc]

theorem layOut_use (dialect : Dialect) (module : String) :
    (Statement.use module).line.layOut dialect = useLine dialect module := by
  have line := layOut_indented dialect 2 ("USE " ++ module)
    (by rw [String.toList_append]; rfl) (by decide)
  have spelled : "  USE " ++ module = blanks 2 ++ ("USE " ++ module) := by
    rw [← String.append_assoc]
    rfl
  rw [useLine, ← line, Statement.line, spelled]

theorem layOut_nullify (dialect : Dialect) (name : String) :
    (Statement.nullify name).line.layOut dialect = nullifyLine dialect name := by
  have line := layOut_indented dialect 2 ("NULLIFY(" ++ name ++ ")")
    (by simp only [String.append_assoc, String.toList_append]; rfl) (by decide)
  have spelled : "  NULLIFY(" ++ name ++ ")" = blanks 2 ++ ("NULLIFY(" ++ name ++ ")") := by
    simp only [← String.append_assoc]
    rfl
  rw [nullifyLine, ← line, Statement.line, spelled]

end ForeignGlue
