import GraphQLCheck.Command.Discovery
import GraphQLCheck.Document.Grammar
import GraphQLCheck.Schema.Layout
import GraphQLCheck.Schema.Load
import GraphQLCheck.Validation

/-!
# The report of a check

What is printed about a check of operation files against a schema. Without a schema there is only
the error that kept it from being built. Otherwise the files are gone through in order (`Tally`):
every diagnostic has a line, and what could not be reached or loaded is noted apart and comes after
all lines. If there is nothing to report, the check has succeeded and its extent is printed.
-/

namespace GraphQLCheck

/-- Why an operation file could not be loaded. -/
inductive LoadFault where
  /-- There is nothing to be read. -/
  | unreadable (path : String) (fault : PathFault)
  /-- The file is not UTF-8. -/
  | notUtf8 (path : String)
  /-- The text of the file is no operation document, for the cause given. -/
  | unparsable (path cause : String)
  deriving DecidableEq

/-- The fault in words. -/
def LoadFault.message : LoadFault → String
  | unreadable path fault => "Failed to read " ++ path ++ ": " ++ fault.message
  | notUtf8 path => "Failed to read " ++ path ++ ": stream did not contain valid UTF-8"
  | unparsable path cause => "Failed to parse " ++ path ++ ": " ++ cause

/-- The document of an operation file. Why its text is none is told in the given words. -/
def Disk.loadDocument (disk : Disk) (words : FaultWords) (path : String) :
    Except LoadFault Document :=
  match disk.read path with
  | .error fault => .error (.unreadable path fault)
  | .ok bytes =>
    match Utf8.decode bytes with
    | .error _ => .error (.notUtf8 path)
    | .ok text =>
      match Document.parse text with
      | .ok document => .ok document
      | .error fault => .error (.unparsable path (words.ofDocument fault))

/-- A file to be checked: its path, and its document or why there is none. -/
structure LoadedFile where
  /-- The path of the file. -/
  path : String
  /-- What is in it. -/
  document : Except LoadFault Document

/-- What a command prints, and whether it has succeeded. -/
@[ext]
structure Outcome where
  /-- Whether the command has succeeded. -/
  success : Bool
  /-- What goes to standard output. -/
  stdout? : Option String
  /-- What goes to standard error. -/
  stderr? : Option String
  deriving DecidableEq

namespace Outcome

/-- The outcome of a command that has succeeded. -/
def ofSuccess (text : String) : Outcome := ⟨true, some text, none⟩

/-- The outcome of a command that has failed before it had anything to report. -/
def ofError (text : String) : Outcome := ⟨false, none, some text⟩

/-- The outcome of a command that has something to report and a summary of it. -/
def ofReport (report summary : String) : Outcome :=
  ⟨false, if report.isEmpty then none else some report, some summary⟩

end Outcome

/-- A diagnostic of a file on one line. -/
def Diagnostic.line (path : String) (d : Diagnostic) : String :=
  match d.positions with
  | position :: _ => path ++ ":" ++ position.text ++ ": " ++ d.message
  | [] => path ++ ": " ++ d.message

/-- What keeps something from being checked. -/
inductive Obstacle where
  /-- It cannot be reached. -/
  | walk (fault : WalkFault)
  /-- It cannot be loaded. -/
  | load (fault : LoadFault)
  deriving DecidableEq

/-- The obstacle in words. -/
def Obstacle.message : Obstacle → String
  | walk fault => fault.message
  | load fault => fault.message

/-- What a check has come upon so far. -/
structure Tally where
  /-- The lines about documents. -/
  lines : List String
  /-- What could not be checked. -/
  obstacles : List Obstacle
  /-- The number of definitions. -/
  definitions : Nat
  /-- The number of files with something wrong in them. -/
  faulty : Nat
  deriving DecidableEq

namespace Tally

/-- Before the first file there is only what could not be reached. -/
def start (faults : List WalkFault) : Tally := ⟨[], faults.map .walk, 0, 0⟩

/-- Adds a file: what is wrong with its document, or that there is none. -/
def add (schema : Schema) (tally : Tally) (file : LoadedFile) : Tally :=
  match file.document with
  | .error fault => { tally with obstacles := tally.obstacles ++ [.load fault] }
  | .ok document =>
    let diagnostics := validate defaultRules schema document
    { tally with
      lines := tally.lines ++ diagnostics.map (Diagnostic.line file.path)
      definitions := tally.definitions + document.definitions.length
      faulty := if diagnostics.isEmpty then tally.faulty else tally.faulty + 1 }

/-- Goes through files. -/
def ofFiles (schema : Schema) (faults : List WalkFault) (files : List LoadedFile) : Tally :=
  files.foldl (add schema) (start faults)

/-- All that is to be reported, the obstacles last. -/
def report (tally : Tally) : List String := tally.lines ++ tally.obstacles.map Obstacle.message

end Tally

namespace Report

/-- The summary of a check that has found something. -/
def failureSummary (diagnostics files faults : Nat) : String :=
  "❌ Found " ++ toString diagnostics ++ " validation errors in " ++ toString files ++
    " files and " ++ toString faults ++ " errors loading files."

/-- The summary of a check that has found nothing. -/
def successSummary (files skipped types definitions : Nat) : String :=
  "✅ All GraphQL validated successfully:\n" ++
    "  * Analyzed " ++ toString files ++ " files.\n" ++
    "  * Skipped " ++ toString skipped ++ " non-graphql files.\n" ++
    "  * Loaded " ++ toString types ++ " schema type definitions.\n" ++
    "  * Validated " ++ toString definitions ++ " operation and fragment definitions."

/-- The report of a check against a schema. -/
def ofFiles (schema : Schema) (skipped : Nat) (faults : List WalkFault) (files : List LoadedFile) :
    Outcome :=
  let tally := Tally.ofFiles schema faults files
  let report := tally.report
  if report.isEmpty then
    .ofSuccess <|
      successSummary files.length skipped schema.definedTypes.length tally.definitions
  else
    .ofReport ("\n".intercalate report) <|
      failureSummary (report.length - tally.obstacles.length) tally.faulty tally.obstacles.length

/-- The report of a check without a schema. -/
def ofError (words : FaultWords) (e : BuildError) : Outcome :=
  .ofError ("❌ Errors loading schema: " ++ (e.layout words).text)

/-- The report of a check. -/
def of (words : FaultWords) (schema : Except BuildError Schema) (skipped : Nat)
    (faults : List WalkFault) (files : List LoadedFile) : Outcome :=
  match schema with
  | .error e => ofError words e
  | .ok schema => ofFiles schema skipped faults files

end Report

end GraphQLCheck
