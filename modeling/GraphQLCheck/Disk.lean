/-!
# What is on disk

The part of a file system that the program looks at, as plain data: whether there is a file at a
path, its bytes, and what a walk through a path finds. There may be a file that cannot be read, and
there may be bytes to be read where there is no file, so neither is told by the other; only a
directory is known not to be a file. A walk gives files and directories in the order in which it
meets them, with the faults it met in their places.
-/

namespace GraphQLCheck

/-- Why a path leads to nothing that can be read. -/
inductive PathFault where
  /-- Some part of the path does not exist. -/
  | missing
  /-- Some part of the path that is followed by another is not a directory. -/
  | notADirectory
  /-- The path leads to a directory where a file is needed. -/
  | isADirectory
  /-- The path or a name in it is longer than can be. -/
  | nameTooLong
  /-- The path goes through too many links. -/
  | tooManyLinks
  /-- What the path leads to may not be read. -/
  | denied
  deriving DecidableEq, Repr

namespace PathFault

/-- The fault as the operating system describes it. -/
def description : PathFault → String
  | missing => "No such file or directory"
  | notADirectory => "Not a directory"
  | isADirectory => "Is a directory"
  | nameTooLong => "File name too long"
  | tooManyLinks => "Too many levels of symbolic links"
  | denied => "Permission denied"

/-- The number of the fault in the operating system. -/
def code : PathFault → Nat
  | missing => 2
  | notADirectory => 20
  | isADirectory => 21
  | nameTooLong => 36
  | tooManyLinks => 40
  | denied => 13

/-- The fault in words. -/
def message (fault : PathFault) : String :=
  fault.description ++ " (os error " ++ toString fault.code ++ ")"

end PathFault

/-- A fault that a walk meets. -/
inductive WalkFault where
  /-- What should be at the path cannot be reached. -/
  | unreachable (path : String) (fault : PathFault)
  /-- The link at `child` leads back to a directory that the walk is in. -/
  | loop (child ancestor : String)
  deriving DecidableEq, Repr

/-- The fault in words, the cause of an unreachable path being given twice: as part of the fault and
as what is behind it. -/
def WalkFault.message : WalkFault → String
  | unreachable path fault =>
    "IO error for operation on " ++ path ++ ": " ++ fault.message ++ ": " ++ fault.message
  | loop child ancestor =>
    "File system loop found: " ++ child ++ " points to an ancestor " ++ ancestor

/-- What a walk finds. -/
inductive WalkItem where
  | file (path : String)
  | directory (path : String)
  | fault (fault : WalkFault)
  deriving DecidableEq, Repr

/-- The files and directories that the program can see. -/
structure Disk where
  /-- The bytes of the file at a path, or why there are none. -/
  read : String → Except PathFault (List UInt8)
  /-- Whether there is a file at a path. -/
  isFile : String → Bool
  /-- What a walk from a path finds. -/
  walk : String → List WalkItem
  /-- A directory is not a file. -/
  not_isFile : ∀ path, read path = .error .isADirectory → isFile path = false

end GraphQLCheck
