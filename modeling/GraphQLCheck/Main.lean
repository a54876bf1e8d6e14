import GraphQLCheck.Command

/-!
# The executable

Looks at the disk as far as the arguments ask for it, runs `Command.run` on what it has seen, and
prints what that comes to. Nothing is decided here.
-/

namespace GraphQLCheck.Main

/-- What is printed when the arguments have to be described. -/
def usage : String :=
  "Usage: graphql-validator [OPTIONS] [COMMAND]\n\n" ++
  "Commands:\n" ++
  "  validate --schema <SCHEMA>... [--graphql-file-exts <EXTS>] <FILE_OR_DIR_PATHS>...\n" ++
  "  help\n\n" ++
  "Options:\n" ++
  "  -v, --verbose  Enable verbose output.\n" ++
  "  -h, --help     Print help\n" ++
  "  -V, --version  Print version"

/-- The fault behind an error of the operating system. -/
def faultOf : IO.Error → PathFault
  | .inappropriateType .. => .notADirectory
  | .invalidArgument _ code _ => if code = 36 then .nameTooLong else .tooManyLinks
  | .permissionDenied .. => .denied
  | _ => .missing

/-- Why nothing stands at a path. -/
def faultAt (path : String) : IO PathFault := do
  try
    let _ ← IO.FS.Handle.mk path .read
    return .missing
  catch e => return faultOf e

/-- The place that a path leads to, and what is there. -/
def locate (path : String) : IO (Except PathFault (String × IO.FS.FileType)) := do
  try
    let real ← IO.FS.realPath path
    let info ← real.metadata
    return .ok (real.toString, info.type)
  catch _ => return .error (← faultAt path)

/-- The names of the entries of a directory. -/
def entryNames (place : String) : IO (List String) := do
  let real ← IO.FS.realPath place
  return (← real.readDir).toList.map fun entry ↦ entry.fileName

/-- What a walk finds at and below a path, inside of the directories with the given paths and
places. What stands at another place than `unlinked` has been reached through a link. -/
partial def walk (inside : List (String × String)) (unlinked path : String) :
    IO (List WalkItem) := do
  match ← locate path with
  | .error fault => return [.fault (.unreachable path fault)]
  | .ok (_, .file) => return [.file path]
  | .ok (place, .dir) =>
    match inside.find? fun (_, p) ↦ p == place && place != unlinked with
    | some (ancestor, _) => return [.fault (.loop path ancestor)]
    | none =>
      let below ← (← entryNames place).mapM fun name ↦
        walk ((path, place) :: inside) (PathName.join place name) (PathName.join path name)
      return .directory path :: below.flatten
  | .ok _ => return []

/-- What has been seen at a path. -/
structure Sight where
  /-- Whether there is a file. -/
  isFile : Bool
  /-- The bytes that are there, or why there are none. -/
  bytes : Except PathFault (List UInt8)
  /-- A directory is not a file. -/
  not_isFile : bytes = .error .isADirectory → isFile = false

/-- There is nothing to be seen, for a reason. -/
def Sight.ofFault (fault : PathFault) : Sight := ⟨false, .error fault, fun _ ↦ rfl⟩

/-- Looks at what is at a path. -/
def see (path : String) : IO Sight := do
  match ← locate path with
  | .error fault => return .ofFault fault
  | .ok (_, .dir) => return .ofFault .isADirectory
  | .ok (_, type) =>
    try
      let bytes ← IO.FS.readBinFile path
      return ⟨type == .file, .ok bytes.toList, nofun⟩
    catch e =>
      match faultOf e with
      | .isADirectory => return .ofFault .isADirectory
      | .denied => return ⟨type == .file, .error .denied, nofun⟩
      | fault => return .ofFault fault

/-- The disk on which the given things have been seen. Nothing else is there. -/
def diskOf (sights : List (String × Sight)) (walks : List (String × List WalkItem)) : Disk where
  read path := ((sights.lookup path).getD (.ofFault .missing)).bytes
  isFile path := ((sights.lookup path).getD (.ofFault .missing)).isFile
  walk path := (walks.lookup path).getD []
  not_isFile path := ((sights.lookup path).getD (.ofFault .missing)).not_isFile

/-- What a check with the given options can see of the disk. -/
def look (options : CheckOptions) : IO Disk := do
  let walks ← options.paths.mapM fun path ↦ return (path, ← walk [] path path)
  let found := (walks.flatMap fun (_, items) ↦ items.filterMap WalkItem.file?).filter
    (hasExtension options.extensions)
  let sights ← (options.schemas ++ options.paths ++ found).mapM fun path ↦
    return (path, ← see path)
  return diskOf sights walks

/-- What can be seen of the disk as far as the arguments ask for it. -/
def lookFor (args : List String) : IO Disk :=
  match Invocation.ofArgs args with
  | .validate _ options => look options
  | _ => return diskOf [] []

/-- What stands at a place, in words. -/
def foundText : Found → String
  | .token written => Text.quote written
  | .noToken _ => "something that is no token"
  | .endOfText => theEnd

/-- Where a text is at fault and why. -/
def faultText : ParseFault → String
  | .unexpected position found expected =>
    position.text ++ ": found " ++ foundText found ++ " instead of " ++ " or ".intercalate expected
  | .meaningless position _ => position.text ++ ": this literal denotes nothing"
  | .refused position reason => position.text ++ ": " ++ reason

/-- The words in which faults of texts are told. -/
def words : FaultWords :=
  ⟨fun fault ↦ "query parse error: " ++ faultText fault,
    fun fault ↦ "schema parse error: " ++ faultText fault⟩

end GraphQLCheck.Main

open GraphQLCheck in
/-- Runs the program and gives its exit code. -/
def main (args : List String) : IO UInt32 := do
  match Command.run (← Main.lookFor args) (← IO.getEnv "LOG_LEVEL") args Main.words with
  | .misuse =>
    IO.eprintln Main.usage
    return 2
  | .help =>
    IO.println Main.usage
    return 0
  | .printed outcome warnings =>
    warnings.forM fun warning ↦ IO.eprintln ("WARN " ++ warning)
    outcome.stdout?.forM fun text ↦ IO.println text
    outcome.stderr?.forM fun text ↦ IO.eprintln text
    return if outcome.success then 0 else 1
