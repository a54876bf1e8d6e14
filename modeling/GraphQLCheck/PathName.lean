/-!
# Names of files and directories

A path is written as names with slashes between them. Slashes that touch, a slash at the end, and a
point in the place of a name say nothing, except that a point at the very front is kept;
`PathName.plain` leaves out what says nothing, so two paths that are written differently are the
same path when their plain forms are equal.

The extension of a file is what follows the last point of its name (`PathName.extension?`).
-/

namespace GraphQLCheck

namespace PathName

/-- The names along a path; a name is empty before, between and after slashes that touch. -/
def segments (path : String) : List String := (path.toList.splitOn '/').map String.ofList

/-- Whether a name leads somewhere else. -/
def isStep (name : String) : Bool := name != "" && name != "."

/-- The names along a path that lead somewhere else. -/
def steps (path : String) : List String := (segments path).filter isStep

/-- Whether a path begins at the root of the file system. -/
def isAbsolute (path : String) : Bool := path.startsWith "/"

/-- What a path begins with, before the names that lead somewhere else: the root, the directory that
it stands in, or nothing. -/
def start (path : String) : List String :=
  if isAbsolute path then [""]
  else if (segments path).head? = some "." then ["."]
  else []

/-- The path without anything that says nothing. -/
def plain (path : String) : String :=
  match start path ++ steps path with
  | [""] => "/"
  | names => "/".intercalate names

/-- The path of an entry of a directory. -/
def join (path name : String) : String :=
  if path.endsWith "/" then path ++ name else path ++ "/" ++ name

/-- The last name along a path; a path that ends by going up has none. -/
def fileName? (path : String) : Option String :=
  match (steps path).getLast? with
  | some ".." => none
  | name => name

/-- What follows the last point of a file's name. A name without a point, or with only one at its
front, has no extension. -/
def extension? (path : String) : Option String := do
  let name := (← fileName? path).toList
  let ext := (name.reverse.takeWhile (· != '.')).reverse
  -- a point and something before it must be left
  if ext.length + 1 < name.length then some (String.ofList ext) else none

end PathName

end GraphQLCheck
