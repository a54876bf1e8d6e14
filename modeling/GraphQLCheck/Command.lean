import GraphQLCheck.Command.Report
import GraphQLCheck.CommandLine
import GraphQLCheck.Text.Terminal

/-!
# The program

`Command.run` is the whole program on what it sees of the world: the disk, the log level that the
environment asks for, and the arguments. It gives what is to be printed and the exit code. The words
for texts that do not follow the grammar are given to it as well.
-/

namespace GraphQLCheck

/-- How serious a log line has to be to be printed. -/
inductive LogLevel where
  | trace
  | debug
  | info
  | warn
  | error
  deriving DecidableEq, Repr

/-- The level of a name, in whatever case and with white space around it. -/
def LogLevel.ofName? (name : String) : Option LogLevel :=
  match String.ofList ((Text.trim name).toList.map Char.toLower) with
  | "debug" | "verbose" => some .debug
  | "error" => some .error
  | "info" => some .info
  | "trace" => some .trace
  | "warn" => some .warn
  | _ => none

/-- Whether warnings are printed. -/
def LogLevel.showsWarnings (level : LogLevel) : Bool := level != .error

namespace Command

/-- The log level, and a warning if the environment asks for one that does not exist. -/
def logLevel (verbose : Bool) (setting? : Option String) : LogLevel × List String :=
  if verbose then (.debug, [])
  else match setting? with
    | none => (.info, [])
    | some setting =>
      match LogLevel.ofName? setting with
      | some level => (level, [])
      | none =>
        (.info, ["Ignoring unrecognized `LOG_LEVEL` value `" ++ Text.trim setting ++
          "`; using `INFO`."])

/-- The warning about a file that is checked although its extension was not asked for. -/
def forcedWarning (path : String) (exts : List String) : String :=
  "Proceeding to validate " ++ Text.quote path ++
    " even though it doesn't match any of the --graphql-file-exts (" ++
    ", ".intercalate (exts.map fun ext ↦ "`" ++ ext ++ "`") ++ ")."

/-- Checks operation files against a schema: what is to be printed, and the warnings on the way. -/
def check (disk : Disk) (words : FaultWords) (options : CheckOptions) : Outcome × List String :=
  match Schema.ofFiles disk options.schemas with
  | .error e => (Report.ofError words e, [])
  | .ok schema =>
    let found := Discovery.run disk options.extensions options.paths
    let files := found.paths.map fun path ↦ LoadedFile.mk path (disk.loadDocument words path)
    let warnings :=
      if found.forced then found.paths.map (forcedWarning · options.extensions) else []
    (Report.ofFiles schema found.skipped found.faults files, warnings)

/-- What a run of the program comes to. -/
inductive Result where
  /-- The arguments made no sense. -/
  | misuse
  /-- The arguments are described. -/
  | help
  /-- Something is printed, and warnings are logged. -/
  | printed (outcome : Outcome) (warnings : List String)

/-- The version of the program. -/
def versionText : String := "graphql-validator 0.0.1"

/-- Runs the program. -/
def run (disk : Disk) (setting? : Option String) (args : List String)
    (words : FaultWords := .brief) : Result :=
  match Invocation.ofArgs args with
  | .misuse => .misuse
  | .help => .help
  | .version => .printed ⟨true, some versionText, none⟩ []
  | .validate verbose options =>
    let (level, warnings) := logLevel verbose setting?
    let (outcome, more) := check disk words options
    .printed outcome (if level.showsWarnings then (warnings ++ more).map Text.harmless else [])

end Command

end GraphQLCheck
