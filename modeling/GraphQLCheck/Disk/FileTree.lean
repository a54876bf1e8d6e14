import GraphQLCheck.Disk
import GraphQLCheck.PathName

/-!
# Trees of files

A tree of files, links and directories, and what can be seen of it (`FileTree.disk`). Paths are
relative to the root of the tree, and what lies outside of the tree does not exist. A link is
followed from the directory it stands in; at most `linkLimit` links are followed on the way to one
path, and paths and the names in them are only so long (`pathLimit`, `nameLimit`).

A walk goes through a directory in the order of its entries and follows links. It reaches each entry
by the entry's whole path. A link to a directory that the walk is in already is a loop, which is
reported and not entered (`loopWith?`), so a walk never goes deeper than the square of the number of
entries, each link that is entered leading to a directory that the walk is not in.
-/

namespace GraphQLCheck

/-- A file, a link or a directory. -/
inductive FileTree where
  | file (bytes : List UInt8)
  | link (target : String)
  | directory (entries : List (String × FileTree))

namespace FileTree

/-- A directory without entries. -/
def empty : FileTree := .directory []

/-- The largest number of links on the way to one path. -/
def linkLimit : Nat := 40

/-- The largest number of bytes in a name. -/
def nameLimit : Nat := 255

/-- The largest number of bytes in a path. -/
def pathLimit : Nat := 4095

/-! ### Looking at trees -/

/-- The entry of a directory with the given name. -/
def child? (t : FileTree) (name : String) : Option FileTree :=
  match t with
  | .directory entries => entries.lookup name
  | _ => none

/-- The entries of a directory; nothing else has any. -/
def entries : FileTree → List (String × FileTree)
  | .directory entries => entries
  | _ => []

/-- The tree at a place, which is given by the names of entries from the root on. -/
def descend (t : FileTree) : List String → Option FileTree
  | [] => some t
  | name :: names => (t.child? name).bind (·.descend names)

mutual

/-- The number of entries in a tree, at any depth. -/
def count : FileTree → Nat
  | .file _ => 0
  | .link _ => 0
  | .directory entries => countEntries entries

/-- The number of entries in a list of entries, at any depth. -/
def countEntries : List (String × FileTree) → Nat
  | [] => 0
  | (_, t) :: entries => t.count + 1 + countEntries entries

end

/-! ### Following paths -/

/-- Follows a path from a directory of the tree `root`. The directory is given by its place, and so
is what the path leads to. A link on the way is left to `onLink`, which is given its target, the
directory it stands in, and the rest of the path. -/
def followSteps (root : FileTree)
    (onLink : (target : String) → (place : List String) → FileTree → (names : List String) →
      Except PathFault (List String × FileTree))
    (place : List String) (t : FileTree) :
    (names : List String) → Except PathFault (List String × FileTree)
  | [] => .ok (place, t)
  | name :: names =>
    match t with
    | .directory _ =>
      if !PathName.isStep name then root.followSteps onLink place t names
      else if name = ".." then
        match place, root.descend place.dropLast with
        | _ :: _, some parent => root.followSteps onLink place.dropLast parent names
        | _, _ => .error .missing
      else if nameLimit < name.utf8ByteSize then .error .nameTooLong
      else match t.child? name with
        | none => .error .missing
        | some (.link target) => onLink target place t names
        | some child => root.followSteps onLink (place ++ [name]) child names
    | _ => .error .notADirectory

/-- Follows a path from a directory of the tree `root`, where at most `links` links may be followed.
A link is never what a path leads to. -/
def follow (root : FileTree) : (links : Nat) → (place : List String) → FileTree →
    (names : List String) → Except PathFault (List String × FileTree)
  | 0 => root.followSteps fun _ _ _ _ ↦ .error .tooManyLinks
  | links + 1 => root.followSteps fun target place t names ↦
    if PathName.isAbsolute target then .error .missing
    else root.follow links place t (PathName.segments target ++ names)

/-- What a path leads to from the root. -/
def find (root : FileTree) (path : String) : Except PathFault (List String × FileTree) :=
  if pathLimit < path.utf8ByteSize then .error .nameTooLong
  else if path = "" || PathName.isAbsolute path then .error .missing
  else root.follow linkLimit [] root (PathName.segments path)

/-! ### Building trees -/

/-- Puts an entry at its place, or at the end if its name is new. -/
def setEntry (name : String) (t : FileTree) : List (String × FileTree) → List (String × FileTree)
  | [] => [(name, t)]
  | (n, u) :: entries =>
    if n = name then (name, t) :: entries else (n, u) :: setEntry name t entries

/-- Puts a tree at a place, with directories on the way to it. A directory that is there already
stays as it is. -/
def put (t : FileTree) : List String → FileTree → FileTree
  | [], new =>
    match t, new with
    | .directory _, .directory [] => t
    | _, _ => new
  | name :: names, new =>
    .directory (setEntry name (((t.child? name).getD empty).put names new) t.entries)

/-- The place that a path means from a place of the tree `root`, where at most `links` links are
followed. Names that do not exist are taken for directories to be. -/
def settle (root : FileTree) (links : Nat) (place : List String) : List String → List String
  | [] => place
  | name :: names =>
    if !PathName.isStep name then root.settle links place names
    else if name = ".." then root.settle links place.dropLast names
    else match links, root.descend (place ++ [name]) with
      | links + 1, some (.link target) =>
        root.settle links place (PathName.segments target ++ names)
      | links, _ => root.settle links (place ++ [name]) names
termination_by names => (links, names.length)

/-- A tree with another one put at a path, through the links on the way. -/
def add (root : FileTree) (path : String) (t : FileTree) : FileTree :=
  root.put (root.settle linkLimit [] (PathName.segments path)) t

/-! ### Walking -/

/-- The path of the innermost of the directories that a walk is in which stands at the given place.
-/
def loopWith? (inside : List (String × List String)) (place : List String) : Option String :=
  (inside.find? fun (_, p) ↦ p == place).map Prod.fst

/-- What a walk finds at and below a path. The directories that the walk is in are given by their
paths and places, innermost first; `linked` tells whether the path is that of a link. -/
def walkFrom (root : FileTree) : (depth : Nat) → (inside : List (String × List String)) →
    (linked : Bool) → (path : String) → List WalkItem
  | 0, _, _, _ => []
  | depth + 1, inside, linked, path =>
    match root.find path with
    | .error fault => [.fault (.unreachable path fault)]
    | .ok (place, .directory entries) =>
      match loopWith? inside place, linked with
      | some ancestor, true => [.fault (.loop path ancestor)]
      | _, _ =>
        .directory path :: entries.flatMap fun (name, t) ↦
          match t with
          | .file _ => [.file (PathName.join path name)]
          | .link _ =>
            root.walkFrom depth ((path, place) :: inside) true (PathName.join path name)
          | .directory _ =>
            root.walkFrom depth ((path, place) :: inside) false (PathName.join path name)
    | .ok _ => [.file path]

/-- What a walk from a path finds. -/
def walk (root : FileTree) (path : String) : List WalkItem :=
  root.walkFrom ((root.count + 1) * (root.count + 1) + 1) [] false path

/-- The bytes of the file that a path leads to. -/
def read (root : FileTree) (path : String) : Except PathFault (List UInt8) :=
  match root.find path with
  | .ok (_, .file bytes) => .ok bytes
  | .ok (_, .directory _) => .error .isADirectory
  | .ok (_, .link _) => .error .missing
  | .error fault => .error fault

/-- Whether a path leads to a file. -/
def isFile (root : FileTree) (path : String) : Bool :=
  match root.find path with
  | .ok (_, .file _) => true
  | _ => false

theorem not_isFile_of_read (root : FileTree) (path : String)
    (h : root.read path = .error .isADirectory) : root.isFile path = false := by
  rw [read] at h
  rw [isFile]
  split at h <;> simp_all

/-- What can be seen of a tree. -/
def disk (root : FileTree) : Disk := ⟨root.read, root.isFile, root.walk, root.not_isFile_of_read⟩

end FileTree

end GraphQLCheck
