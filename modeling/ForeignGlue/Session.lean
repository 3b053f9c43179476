/-
Generation into a directory.

Each artifact is written as soon as it is complete, and what is written stays, whatever comes after
it.
-/

import ForeignGlue.Directory
import ForeignGlue.Generation
import ForeignGlue.ScalarIndex.Format

namespace ForeignGlue

open ForeignGlue.Text

/-- An action on a directory that may fail. What it has done by then stays done. -/
abbrev Session := ExceptT GenerationError (StateM Directory)

namespace Session

/-- A result as an action that changes nothing. -/
def ofExcept {α : Type} (result : Except GenerationError α) : Session α :=
  ExceptT.mk (pure result)

/-- Reads a file. -/
def readFile (path : String) : Session String := do
  match (← get).read? path with
  | some text => return text
  | none => throw (.fileAccess path)

/-- Does a change that may not be possible. -/
def change (path : String) (result : Directory → Option Directory) : Session Unit := do
  match result (← get) with
  | some directory => set directory
  | none => throw (.fileAccess path)

/-- Writes a file. -/
def writeFile (path text : String) : Session Unit :=
  change path fun directory => directory.write? path text

/-- Adds text at the end of a file. -/
def appendFile (path text : String) : Session Unit :=
  change path fun directory => directory.append? path text

/-- Makes a folder, and those that lead to it. -/
def makeFolder (path : String) : Session Unit := do
  let (directory, made) := (← get).makeFolder path
  set directory
  if !made then throw (.fileAccess path)

/-- Does an action on a directory. -/
def runOn {α : Type} (action : Session α) (directory : Directory) :
    Except GenerationError α × Directory :=
  (ExceptT.run action).run directory

/-! ### Scalar indexes -/

/-- Whether a name is that of a scalar index file: an identifier and the extension. -/
def isIndexFileName (name : String) : Bool :=
  let chars := name.toList
  let stem := chars.take (chars.length - 8)
  chars.drop (chars.length - 8) == ".scalars".toList &&
    match stem with
    | [] => false
    | first :: rest => isNameStart first && rest.all isNameChar

/-- Loads a scalar index. Its file does not hold the storage properties of the scalars, which are
found anew. -/
def loadIndex (path : String) : Session ScalarIndex := do
  if !((Directory.fileName? path).any isIndexFileName) then throw (.notAnIndexPath path)
  let text ← readFile path
  match ScalarIndex.read text with
  | some index => return index.annotate
  | none => throw (.indexFormat path)

/-- Loads scalar indexes in order. -/
def loadIndexes (paths : List String) : Session (List ScalarIndex) :=
  paths.mapM loadIndex

/-- Saves a scalar index, and tells its path. -/
def saveIndex (index : ScalarIndex) : Session String := do
  let path := ScalarIndex.fileName index.module
  writeFile path index.write
  return path

end Session

namespace GeneratedModule

/-- Writes all artifacts, and tells their paths. -/
def writeAll (generated : GeneratedModule) : Session (List String) := do
  Session.writeFile generated.hostFile generated.hostSource
  Session.writeFile generated.foreignFile generated.foreignSource
  let index ← Session.saveIndex generated.index
  return [generated.hostFile, generated.foreignFile, index]

end GeneratedModule

namespace Generator

/-- Generates all artifacts of a module and writes each as soon as it is complete. The code of
record types is added to the host file, which is there by then. -/
def generateTo (generator : Generator) (interface : Interface) : Session GeneratedModule := do
  let ctx := generator.context interface
  let hostFile := GeneratedModule.hostFileOf ctx.module
  let host ← Session.ofExcept ctx.hostSource
  Session.writeFile hostFile host
  let records ← Session.ofExcept (generator.records ctx)
  if records.host != "" then Session.appendFile hostFile records.host
  let foreign ← Session.ofExcept (ctx.foreignSource records.foreign)
  Session.writeFile (GeneratedModule.foreignFileOf ctx.module ctx.options.dialect) foreign
  let generated := assemble ctx (host ++ records.host) foreign
  let _ ← Session.saveIndex generated.index
  return generated

end Generator

end ForeignGlue
