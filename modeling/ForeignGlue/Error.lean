/-
Why a generation run stops. The first error ends the run; files already written stay.
-/

namespace ForeignGlue

/-- A reason to stop generating. -/
inductive GenerationError where
  /-- A bound names a scalar that neither the module nor any external module has. -/
  | unresolved (name : String)
  /-- A statement is too long and has no place where it may be continued. -/
  | noLineBreak (line : String)
  /-- A scalar index is asked for under a file name that is none of a scalar index. -/
  | notAnIndexPath (path : String)
  /-- The text of a scalar index file is not of its format. -/
  | indexFormat (path : String)
  /-- A file cannot be read or written. -/
  | fileAccess (path : String)
  deriving DecidableEq, Repr

/-- What an error says, for those whose words are the generator's own. -/
def GenerationError.message? : GenerationError → Option String
  | .unresolved name => some s!"{name} is not declared in the interface file"
  | .noLineBreak line => some s!"can't find a place to break up this line:\n{line}"
  | .notAnIndexPath path => some s!"expected a .scalars file, got {path}"
  | .indexFormat _ => none
  | .fileAccess _ => none

end ForeignGlue
