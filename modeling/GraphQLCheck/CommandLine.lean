/-!
# The command line

What the arguments of the program ask for. Before the command there may be flags; the command
`validate` takes schema files, extensions and paths. Values of `--schema` go on up to the next
option, while `--graphql-file-exts` takes one value; a value that is attached with an equals sign
stands alone. Values are separated by commas. After two dashes everything is a path.
-/

namespace GraphQLCheck

/-- What a check is to be made of. -/
structure CheckOptions where
  /-- The schema files. -/
  schemas : List String
  /-- The extensions of operation files, as written. -/
  extensions : List String
  /-- The files and directories to be checked. -/
  paths : List String
  deriving DecidableEq, Repr

/-- What the arguments ask for. -/
inductive Invocation where
  /-- A description of the arguments. -/
  | help
  /-- The version of the program. -/
  | version
  /-- Nothing that makes sense. -/
  | misuse
  /-- A check, with detailed logging or not. -/
  | validate (verbose : Bool) (options : CheckOptions)
  deriving DecidableEq, Repr

namespace CommandLine

/-- The extensions of operation files unless others are given. -/
def defaultExtensions : List String := ["graphql", "gql"]

/-- How an argument is written. -/
inductive Form where
  /-- Two dashes alone. -/
  | dashes
  /-- Two dashes and a name, with a value attached or not. -/
  | long (name : List Char) (value? : Option String)
  /-- One dash and letters. -/
  | short (letters : List Char)
  /-- Anything else. -/
  | plain (text : String)

/-- The value that an equals sign attaches. -/
def attached? : List Char → Option String
  | [] => none
  | _ :: value => some (String.ofList value)

/-- How an argument is written. -/
def form (arg : String) : Form :=
  match arg.toList with
  | ['-', '-'] => .dashes
  | '-' :: '-' :: text => .long (text.takeWhile (· != '=')) (attached? (text.dropWhile (· != '=')))
  | ['-'] => .plain arg
  | '-' :: letters => .short letters
  | _ => .plain arg

/-- The option that takes the next values. -/
inductive Pending where
  | nothing
  /-- Schema files; tells whether there has been one. -/
  | schemas (given : Bool)
  /-- Extensions. -/
  | extensions
  deriving DecidableEq

/-- The arguments of `validate` so far. -/
structure Progress where
  schemas : List String
  extensions : List String
  paths : List String
  pending : Pending

/-- Nothing so far. -/
def Progress.start : Progress := ⟨[], [], [], .nothing⟩

/-- Whether no option waits for its first value. -/
def Progress.settled (p : Progress) : Bool :=
  match p.pending with
  | .nothing => true
  | .schemas given => given
  | .extensions => false

/-- Adds schema files; the path of a file is not empty. -/
def Progress.addSchemas (p : Progress) (value : String) (pending : Pending) : Option Progress :=
  let values := value.splitOn ","
  if values.contains "" then none
  else some { p with schemas := p.schemas ++ values, pending := pending }

/-- Adds extensions. -/
def Progress.addExtensions (p : Progress) (value : String) : Progress :=
  { p with extensions := p.extensions ++ value.splitOn ",", pending := .nothing }

/-- Adds a path, which is not empty. -/
def Progress.addPath (p : Progress) (path : String) : Option Progress :=
  if path = "" || !p.settled then none
  else some { p with paths := p.paths ++ [path], pending := .nothing }

/-- What the arguments of `validate` ask for, once all of them are read. -/
def Progress.finish (verbose : Bool) (p : Progress) : Invocation :=
  if !p.settled || p.schemas.isEmpty || p.paths.isEmpty then .misuse
  else
    let extensions := if p.extensions.isEmpty then defaultExtensions else p.extensions
    .validate verbose ⟨p.schemas, extensions, p.paths⟩

/-- Reads arguments that are all paths. -/
def readPaths (verbose : Bool) (p : Progress) : List String → Invocation
  | [] => p.finish verbose
  | arg :: args =>
    match p.addPath arg with
    | some p => readPaths verbose p args
    | none => .misuse

/-- Reads the arguments of `validate`. -/
def readValidate (verbose : Bool) (p : Progress) : List String → Invocation
  | [] => p.finish verbose
  | arg :: args =>
    match form arg with
    | .dashes => readPaths verbose p args
    | .long name value? =>
      if !p.settled then .misuse
      else match String.ofList name, value? with
        | "schema", some value =>
          match p.addSchemas value .nothing with
          | some p => readValidate verbose p args
          | none => .misuse
        | "schema", none => readValidate verbose { p with pending := .schemas false } args
        | "graphql-file-exts", some value => readValidate verbose (p.addExtensions value) args
        | "graphql-file-exts", none => readValidate verbose { p with pending := .extensions } args
        | "help", none => .help
        | _, _ => .misuse
    | .short letters => if p.settled && letters.head? = some 'h' then .help else .misuse
    | .plain text =>
      match p.pending with
      | .schemas _ =>
        match p.addSchemas text (.schemas true) with
        | some p => readValidate verbose p args
        | none => .misuse
      | .extensions => readValidate verbose (p.addExtensions text) args
      | .nothing =>
        match p.addPath text with
        | some p => readValidate verbose p args
        | none => .misuse

/-- What flags before the command ask for: nothing makes sense twice. -/
inductive Flags where
  | go (verbose : Bool)
  | stop (invocation : Invocation)

/-- Reads the letters of flags before the command. -/
def readLetters (verbose : Bool) : List Char → Flags
  | [] => .go verbose
  | letter :: letters =>
    if letter = 'h' then .stop .help
    else if letter = 'V' then .stop .version
    else if letter = 'v' && !verbose then readLetters true letters
    else .stop .misuse

/-- What is asked after `help`: a description of the program or of one of its commands. -/
def readHelp : List String → Invocation
  | [] => .help
  | [command] => if command = "validate" || command = "help" then .help else .misuse
  | _ => .misuse

/-- Reads the arguments of the program. Without a command they ask for help. -/
def read (verbose : Bool) : List String → Invocation
  | [] => .help
  | arg :: args =>
    match form arg with
    | .dashes => if args.isEmpty then .help else .misuse
    | .long name value? =>
      match String.ofList name, value? with
      | "verbose", none => if verbose then .misuse else read true args
      | "help", none => .help
      | "version", none => .version
      | _, _ => .misuse
    | .short letters =>
      match readLetters verbose letters with
      | .go verbose => read verbose args
      | .stop invocation => invocation
    | .plain text =>
      if text = "validate" then readValidate verbose .start args
      else if text = "help" then readHelp args
      else .misuse

end CommandLine

/-- What the arguments of the program ask for. -/
def Invocation.ofArgs (args : List String) : Invocation := CommandLine.read false args

end GraphQLCheck
