import GraphQLCheck.Disk
import GraphQLCheck.PathName

/-!
# Finding operation files

The files to be checked are those that walks from the given paths find and whose extension is one of
those asked for; all other files are counted as skipped (`Discovery.ofItems`). A single path that is
itself a file is taken even if its extension is not asked for, when nothing else was found
(`Discovery.run`).
-/

namespace GraphQLCheck

/-- An extension without the points at its front. -/
def bareExtension (ext : String) : String := String.ofList (ext.toList.dropWhile (· == '.'))

/-- Whether a file has one of the given extensions, which may be written with points at their front.
-/
def hasExtension (exts : List String) (path : String) : Bool :=
  match PathName.extension? path with
  | some ext => (exts.map bareExtension).contains ext
  | none => false

/-- The path of a file that a walk found. -/
def WalkItem.file? : WalkItem → Option String
  | .file path => some path
  | _ => none

/-- A fault that a walk met. -/
def WalkItem.fault? : WalkItem → Option WalkFault
  | .fault f => some f
  | _ => none

/-- The files to be checked, and what else was found. -/
structure Discovery where
  /-- The files to be checked. -/
  paths : List String
  /-- The number of other files. -/
  skipped : Nat
  /-- The faults met on the way. -/
  faults : List WalkFault
  /-- Whether the one path given is taken although its extension was not asked for. -/
  forced : Bool
  deriving DecidableEq

namespace Discovery

/-- What walks have found: the files with one of the given extensions, and the number of others. -/
def ofItems (exts : List String) (items : List WalkItem) : Discovery :=
  let files := items.filterMap WalkItem.file?
  { paths := files.filter (hasExtension exts)
    skipped := files.countP (!hasExtension exts ·)
    faults := items.filterMap WalkItem.fault?
    forced := false }

/-- Looks for files at and below the given paths. -/
def run (disk : Disk) (exts : List String) (paths : List String) : Discovery :=
  let found := ofItems exts (paths.flatMap disk.walk)
  match paths with
  | [path] =>
    if found.paths.isEmpty && disk.isFile path then
      { found with paths := [path], skipped := 0, forced := true }
    else found
  | _ => found

end Discovery

end GraphQLCheck
