import GraphQLCheck.Disk
import GraphQLCheck.Document
import GraphQLCheck.Schema.Violation
import GraphQLCheck.Text.Quoted
import GraphQLCheck.Text.Utf8

/-!
# Why there is no schema

The reasons for which sources do not make a schema. A file may be unreadable and a text may be no
schema document; a declaration may clash with an earlier one; and the declarations taken together
may violate the rules between types or leave a root type open.

Errors that differ only in how file names are written are the same (`BuildError.same`).
-/

namespace GraphQLCheck

/-- A root type as a schema declaration names it. -/
structure RootDecl where
  /-- Where the schema declaration stands. -/
  location : Location
  /-- The name of the root type. -/
  type : String
  deriving DecidableEq

/-- Why a file could not be read as text. -/
inductive ReadFailure where
  /-- The bytes of the file are not UTF-8. -/
  | notUtf8 (path : String) (bytes : List UInt8) (failure : Utf8.Failure)
  /-- There is a file at the path, but it cannot be read. -/
  | unreadable (path : String) (fault : PathFault)
  /-- There is no file at the path. -/
  | notAFile (path : String)
  deriving DecidableEq

/-- The failure in words. -/
def ReadFailure.message : ReadFailure → String
  | notUtf8 path _ failure =>
    Violation.code (Text.quote path) ++ " does not contain valid UTF-8: " ++ failure.message
  | unreadable path fault =>
    "Failed to read " ++ Violation.code (Text.quote path) ++ ": " ++ fault.message
  | notAFile path => Violation.code (Text.quote path) ++ " is not a file"

/-- Why sources do not make a schema. -/
inductive BuildError where
  /-- Two schema declarations name a root type for one operation. -/
  | duplicateRoot (operation : OperationKind) (first second : RootDecl)
  /-- An object or an interface declares a field twice. -/
  | duplicateField (type field : String) (first second : Location)
  /-- A type is declared twice, or has the name of a built-in one. -/
  | duplicateType (type : String) (first second : Location)
  /-- A type has a name that is kept for introspection. -/
  | reservedName (location : Location) (type : String)
  /-- There is no root type for queries. -/
  | noQueryRoot
  /-- A text is no schema document. -/
  | unparsable (file : Option String) (fault : ParseFault)
  /-- A root type is not an object. -/
  | rootNotObject (operation : OperationKind) (type : String) (kind : Kind)
  /-- A root type is not defined. -/
  | rootUndefined (operation : OperationKind) (location : Location) (type : String)
  /-- A file could not be read. -/
  | unreadable (failure : ReadFailure)
  /-- The types violate the rules between them. -/
  | invalidTypes (violations : List Violation)
  deriving DecidableEq

/-- The error in words. Why a text is no schema document is told in the given ones. -/
def BuildError.message (e : BuildError) (words : FaultWords := .brief) : String :=
  match e with
  | duplicateRoot operation first second =>
    "Multiple " ++ Violation.code operation.keyword ++ " root operation types were defined: " ++
      Violation.code first.type ++ " and " ++ Violation.code second.type
  | duplicateField type field _ _ =>
    "The " ++ Violation.code type ++ " type defines the " ++ Violation.code field ++
      " field more than once"
  | duplicateType type _ _ => "Multiple definitions of the " ++ Violation.code type ++ " type"
  | reservedName _ type =>
    "The " ++ Violation.code type ++ " type is defined with a name that starts with " ++
      Violation.code "__" ++ ", which is reserved for GraphQL introspection"
  | noQueryRoot => "No query type was defined in the schema"
  | unparsable _ fault => "Error parsing schema document: " ++ words.ofSchema fault
  | rootNotObject operation type kind =>
    "The " ++ Violation.code type ++ " type is declared as the " ++
      Violation.code operation.keyword ++ " root type, but it is a " ++ kind.name ++
      " type rather than an object type"
  | rootUndefined operation _ type =>
    "The " ++ Violation.code type ++ " type is declared as the " ++
      Violation.code operation.keyword ++ " root type, but no such type is defined"
  | unreadable failure =>
    "Failure while trying to read a schema file from disk: " ++ failure.message
  | invalidTypes violations =>
    "Found " ++ toString violations.length ++ " errors while validating schema types"

/-! ### Equality up to the spelling of file names -/

/-- The root type with its file name in plain form. -/
def RootDecl.plain (r : RootDecl) : RootDecl := ⟨r.location.plain, r.type⟩

/-- The failure with its file name in plain form. -/
def ReadFailure.plain : ReadFailure → ReadFailure
  | notUtf8 path bytes failure => notUtf8 (PathName.plain path) bytes failure
  | unreadable path fault => unreadable (PathName.plain path) fault
  | notAFile path => notAFile (PathName.plain path)

namespace BuildError

/-- The error with its file names in plain form. -/
def plain : BuildError → BuildError
  | duplicateRoot operation first second => duplicateRoot operation first.plain second.plain
  | duplicateField type field first second => duplicateField type field first.plain second.plain
  | duplicateType type first second => duplicateType type first.plain second.plain
  | reservedName location type => reservedName location.plain type
  | noQueryRoot => noQueryRoot
  | unparsable file fault => unparsable (file.map PathName.plain) fault
  | rootNotObject operation type kind => rootNotObject operation type kind
  | rootUndefined operation location type => rootUndefined operation location.plain type
  | unreadable failure => unreadable failure.plain
  | invalidTypes violations => invalidTypes (violations.map Violation.plain)

/-- The same error, whatever the spelling of file names. -/
def same (e f : BuildError) : Bool := e.plain == f.plain

end BuildError

end GraphQLCheck
