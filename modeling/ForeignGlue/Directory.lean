/-
Directories of files, as values.

A directory is a list of its entries with their places. A place is the list of names that lead to it
from the directory; each `..` in it stands at the front and goes up one level. A path text is
followed name by name, and `..` goes back only from a folder that is there. A file can be written
where a folder holds it and no folder stands in its place.
-/

import ForeignGlue.Text.Basic

namespace ForeignGlue

open ForeignGlue.Text

/-- What stands at a place. -/
inductive Entry where
  | file (text : String)
  | folder
  deriving DecidableEq, Repr

/-- A directory. -/
structure Directory where
  entries : List (List String × Entry) := []
  deriving DecidableEq, Repr

namespace Directory

/-! ### Paths -/

/-- The names of a path text, between its slashes. -/
def pathNames (path : String) : List String :=
  (splitAtChars (· == '/') path.toList).map String.ofList

/-- Whether a name of a path stays where it is. -/
def isStay (name : String) : Bool :=
  name == "" || name == "."

/-- Whether a name of a path goes up one level. -/
def isUp (name : String) : Bool :=
  name == ".."

/-- The last name of a path that is one of an entry. -/
def fileName? (path : String) : Option String := do
  let name ← ((pathNames path).filter fun name => !isStay name).getLast?
  if isUp name then none else some name

/-- Whether a path can only be that of a folder: a slash or a dot ends it. -/
def isFolderPath (path : String) : Bool :=
  match (pathNames path).getLast? with
  | some name => isStay name || isUp name
  | none => true

/-- The number of bytes that the name of an entry may have. -/
def longestName : Nat := 255

/-- The number of bytes that a path may have, however short the way is that it describes. -/
def longestPath : Nat := 4095

/-- Whether a path can be followed at all: it is not too long, no NUL is in it, and it does not
leave the directory by a slash at its start. -/
def isPath (path : String) : Bool :=
  byteSize path.toList ≤ longestPath && !path.toList.contains '\x00' &&
    path.toList.head? != some '/'

/-! ### Places -/

/-- What stands at a place. The directory and the levels above it are folders. -/
def get? (directory : Directory) (place : List String) : Option Entry :=
  if place.all isUp then some .folder
  else (directory.entries.find? fun entry => entry.1 == place).map Prod.snd

/-- Whether a folder stands at a place. -/
def isFolder (directory : Directory) (place : List String) : Bool :=
  directory.get? place == some .folder

/-- The place one level up. -/
def parent (place : List String) : List String :=
  if place.all isUp then place ++ [".."] else place.dropLast

/-- Where a name leads; `none` if no folder is left by it, or no entry can have it. -/
def step (directory : Directory) (place : List String) (name : String) : Option (List String) :=
  if isStay name then some place
  else if !directory.isFolder place then none
  else if isUp name then some (parent place)
  else if byteSize name.toList ≤ longestName then some (place ++ [name])
  else none

/-- Where a path leads. -/
def resolve (directory : Directory) (path : String) : Option (List String) :=
  if isPath path then (pathNames path).foldlM directory.step [] else none

/-! ### Files -/

/-- The directory with an entry at a place, instead of what stands there. -/
def set (directory : Directory) (place : List String) (entry : Entry) : Directory :=
  if directory.entries.any fun existing => existing.1 == place then
    { entries := directory.entries.map fun existing =>
        if existing.1 == place then (place, entry) else existing }
  else { entries := directory.entries ++ [(place, entry)] }

/-- The text of a file. -/
def read? (directory : Directory) (path : String) : Option String :=
  if isFolderPath path then none
  else
    match (directory.resolve path).bind directory.get? with
    | some (.file text) => some text
    | _ => none

/-- The directory with a file written. -/
def write? (directory : Directory) (path text : String) : Option Directory :=
  if isFolderPath path then none
  else do
    let place ← directory.resolve path
    if directory.isFolder place || !directory.isFolder (parent place) then none
    else some (directory.set place (.file text))

/-- The directory with text added at the end of a file that is there. -/
def append? (directory : Directory) (path text : String) : Option Directory := do
  let existing ← directory.read? path
  directory.write? path (existing ++ text)

/-! ### Folders -/

/-- The directory after a folder is made at each name on the way from `place`, and whether all of
them are there now. What is made before a name that leads nowhere stays. -/
def makeFolders (directory : Directory) (place : List String) : List String → Directory × Bool
  | [] => (directory, true)
  | name :: names =>
    match directory.step place name with
    | none => (directory, false)
    | some next =>
      match directory.get? next with
      | some .folder => directory.makeFolders next names
      | some (.file _) => (directory, false)
      | none => (directory.set next .folder).makeFolders next names

/-- Whether a path ends in a dot that stays where it is. -/
def endsInStay (path : String) : Bool :=
  ((pathNames path).filter fun name => name != "").getLast? == some "."

/-- The directory after the folder of a path and all that lead to it are made, and whether it is
there now. Under a path that ends in a dot the last folder itself is not made. -/
def makeFolder (directory : Directory) (path : String) : Directory × Bool :=
  let names := (pathNames path).filter fun name => !isStay name
  if !isPath path then (directory, false)
  else if endsInStay path then
    match directory.makeFolders [] names.dropLast with
    | (made, false) => (made, false)
    | (made, true) => (made, (made.resolve path).any made.isFolder)
  else directory.makeFolders [] names

/-! ### What is there -/

/-- The names at the top of the directory, with the size of each file in bytes. -/
def listing (directory : Directory) : List (String × Option Nat) :=
  directory.entries.filterMap fun entry =>
    match entry with
    | ([name], .file text) => some (name, some (byteSize text.toList))
    | ([name], .folder) => some (name, none)
    | _ => none

end Directory

end ForeignGlue
