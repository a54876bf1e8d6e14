import GraphQLCheck.Disk
import GraphQLCheck.Schema.Build

/-!
# Schemas from their sources

A schema from one text, from several texts that may have file names, or from files. The sources are
read in order, and the first error ends the reading. The locations in a file carry its path as
given.
-/

namespace GraphQLCheck

/-- A schema document as text. -/
structure SourceText where
  /-- The file it comes from. -/
  file? : Option String
  /-- The text. -/
  text : String

/-- The text of a file. -/
def Disk.readText (disk : Disk) (path : String) : Except ReadFailure String :=
  if disk.isFile path then
    match disk.read path with
    | .error fault => .error (.unreadable path fault)
    | .ok bytes =>
      match Utf8.decode bytes with
      | .error failure => .error (.notUtf8 path bytes failure)
      | .ok text => .ok text
  else .error (.notAFile path)

namespace Draft

/-- Adds the declarations of some texts in order. -/
def loadTexts (d : Draft) (sources : List SourceText) : Except BuildError Draft :=
  sources.foldlM (fun d source ↦ d.loadText source.file? source.text) d

/-- Adds the declarations of a file. -/
def loadFile (disk : Disk) (d : Draft) (path : String) : Except BuildError Draft :=
  match disk.readText path with
  | .error failure => .error (.unreadable failure)
  | .ok text => d.loadText (some path) text

/-- Adds the declarations of some files in order. -/
def loadFiles (disk : Disk) (d : Draft) (paths : List String) : Except BuildError Draft :=
  paths.foldlM (loadFile disk) d

end Draft

namespace Schema

/-- The schema of some texts. -/
def ofTexts (sources : List SourceText) : Except BuildError Schema := do
  (← Draft.empty.loadTexts sources).build

/-- The schema of some files. -/
def ofFiles (disk : Disk) (paths : List String) : Except BuildError Schema := do
  (← Draft.empty.loadFiles disk paths).build

end Schema

end GraphQLCheck
