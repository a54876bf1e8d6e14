import GraphQLCheck.Schema.BuildError
import GraphQLCheck.Text.Layout

/-!
# Build errors in full

How the errors that keep a schema from being built are laid out with everything they hold, and the
word that stands for each kind of error and violation.
-/

namespace GraphQLCheck

/-- A text as a quoted atom. -/
def Layout.string (text : String) : Layout := .atom (Text.quote text)

/-- A number as an atom. -/
def Layout.number (n : Nat) : Layout := .atom (toString n)

/-- A value that may be missing. -/
def Layout.option : Option Layout → Layout
  | none => .atom "None"
  | some inner => .wrap "Some" inner

/-- A location in full. -/
def Location.layout : Location → Layout
  | .builtIn => .atom "GraphQLBuiltIn"
  | .written file position =>
    .wrap "Schema" (.record "FilePosition"
      [("file", .option (file.map .string)),
        ("position", .record "SourcePosition"
          [("line", .number position.line), ("col", .number position.col)])])

/-- The word for an operation. -/
def OperationKind.layout : OperationKind → Layout
  | .query => .atom "Query"
  | .mutation => .atom "Mutation"
  | .subscription => .atom "Subscription"

/-- A root type of a schema declaration in full. -/
def RootDecl.layout (r : RootDecl) : Layout :=
  .record "NamedTypeDefLocation"
    [("def_location", r.location.layout), ("type_name", .string r.type)]

/-- The word for a kind of violation. -/
def Violation.tag : Violation → String
  | implementsNonInterface .. => "ImplementsNonInterfaceType"
  | implementsUndefined .. => "ImplementsUndefinedInterface"
  | parameterMismatch .. => "InvalidInterfaceSpecifiedFieldParameterType"
  | outputOfInputType .. => "InvalidOutputFieldWithInputType"
  | inputOfOutputType .. => "InvalidParameterWithOutputOnlyType"
  | memberKind .. => "InvalidUnionMemberTypeKind"
  | missingField .. => "MissingInterfaceSpecifiedField"
  | missingParameter .. => "MissingInterfaceSpecifiedFieldParameter"
  | undefinedType .. => "UndefinedTypeName"

/-- What a violation holds. -/
def Violation.fields : Violation → List (String × Layout)
  | implementsNonInterface type notInterface location =>
    [("type_name", .string type), ("non_interface_type_name", .string notInterface),
      ("loc", location.layout)]
  | implementsUndefined type interface location =>
    [("type_name", .string type), ("undefined_interface_name", .string interface),
      ("loc", location.layout)]
  | parameterMismatch location expected field interface actual parameter type =>
    [("def_location", location.layout), ("expected_parameter_type", .string expected),
      ("field_name", .string field), ("interface_name", .string interface),
      ("invalid_parameter_type", .string actual), ("parameter_name", .string parameter),
      ("type_name", .string type)]
  | outputOfInputType location field inputType parent =>
    [("def_location", location.layout), ("field_name", .string field),
      ("input_type_name", .string inputType), ("parent_type_name", .string parent)]
  | inputOfOutputType location parameter outputType =>
    [("def_location", location.layout), ("parameter_name", .string parameter),
      ("outputonly_type_name", .string outputType)]
  | memberKind location union member kind =>
    [("location", location.layout), ("union_type_name", .string union),
      ("invalid_member_type_name", .string member), ("invalid_member_type_kind", .atom kind.name)]
  | missingField location field interface type =>
    [("def_location", location.layout), ("field_name", .string field),
      ("interface_name", .string interface), ("type_name", .string type)]
  | missingParameter location field interface parameter type =>
    [("def_location", location.layout), ("field_name", .string field),
      ("interface_name", .string interface), ("missing_parameter_name", .string parameter),
      ("type_name", .string type)]
  | undefinedType location type =>
    [("ref_location", location.layout), ("undefined_type_name", .string type)]

/-- A violation in full. -/
def Violation.layout (v : Violation) : Layout := .record v.tag v.fields

/-- Where and how bytes fail to be UTF-8, in full. -/
def Utf8.Failure.layout (f : Utf8.Failure) : Layout :=
  .record "Utf8Error"
    [("valid_up_to", .number f.validUpTo), ("error_len", .option (f.length?.map .number))]

/-- The word for a fault of a path. -/
def PathFault.tag : PathFault → String
  | missing => "NotFound"
  | notADirectory => "NotADirectory"
  | isADirectory => "IsADirectory"
  | nameTooLong => "InvalidFilename"
  | tooManyLinks => "FilesystemLoop"
  | denied => "PermissionDenied"

/-- A fault of a path in full. -/
def PathFault.layout (fault : PathFault) : Layout :=
  .record "Os"
    [("code", .number fault.code), ("kind", .atom fault.tag),
      ("message", .string fault.description)]

/-- The word for the reason why a file could not be read. -/
def ReadFailure.tag : ReadFailure → String
  | notUtf8 .. => "FileDecodeError"
  | unreadable .. => "FileReadError"
  | notAFile .. => "PathIsNotAFile"

/-- The reason why a file could not be read, in full. -/
def ReadFailure.layout (r : ReadFailure) : Layout :=
  match r with
  | notUtf8 path bytes failure =>
    .record r.tag
      [("file_path", .string path),
        ("err", .record "FromUtf8Error"
          [("bytes", .list (bytes.map fun b ↦ .number b.toNat)), ("error", failure.layout)])]
  | unreadable path fault =>
    .record r.tag [("file_path", .string path), ("err", fault.layout)]
  | notAFile path => .wrap r.tag (.string path)

/-- The word for a kind of error. -/
def BuildError.tag : BuildError → String
  | duplicateRoot .. => "DuplicateOperationDefinition"
  | duplicateField .. => "DuplicateFieldNameDefinition"
  | duplicateType .. => "DuplicateTypeDefinition"
  | reservedName .. => "InvalidDunderPrefixedTypeName"
  | noQueryRoot => "NoQueryOperationTypeDefined"
  | unparsable .. => "ParseError"
  | rootNotObject .. => "RootOperationTypeIsNotAnObjectType"
  | rootUndefined .. => "RootOperationTypeNotDefined"
  | unreadable .. => "SchemaFileReadError"
  | invalidTypes .. => "TypeValidationErrors"

/-- An error in full. Why a text is no schema document is told in the given words. -/
def BuildError.layout (e : BuildError) (words : FaultWords) : Layout :=
  match e with
  | duplicateRoot operation first second =>
    .record e.tag
      [("operation", operation.layout), ("location1", first.layout), ("location2", second.layout)]
  | duplicateField type field first second =>
    .record e.tag
      [("type_name", .string type), ("field_name", .string field), ("field_def1", first.layout),
        ("field_def2", second.layout)]
  | duplicateType type first second =>
    .record e.tag
      [("type_name", .string type), ("def1", first.layout), ("def2", second.layout)]
  | reservedName location type =>
    .record e.tag [("def_location", location.layout), ("type_name", .string type)]
  | noQueryRoot => .atom e.tag
  | unparsable file fault =>
    .record e.tag
      [("file", .option (file.map .string)), ("err", .string (words.ofSchema fault))]
  | rootNotObject operation type kind =>
    .record e.tag
      [("operation", operation.layout), ("type_name", .string type),
        ("type_kind", .atom kind.name)]
  | rootUndefined operation location type =>
    .record e.tag
      [("operation", operation.layout), ("location", location.layout),
        ("type_name", .string type)]
  | unreadable failure => .wrap e.tag failure.layout
  | invalidTypes violations =>
    .record e.tag [("errors", .list (violations.map Violation.layout))]

end GraphQLCheck
