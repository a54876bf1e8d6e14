import GraphQLCheck.Declaration
import GraphQLCheck.NamedType
import GraphQLCheck.Value.Printer

/-!
# Types from their declarations

What a declaration in a given file means. A reference stands where the declaration that holds it
does: the annotation of a field at the field, the interfaces and members of a type at the type. Of
parameters, input fields or enum values with one name, the last is kept, in the place of the first.
-/

namespace GraphQLCheck

/-- The parameter that is declared in a file. -/
def Parameter.ofDecl (file : Option String) (d : ParameterDecl) : Parameter :=
  let location := Location.written file d.position
  { name := d.name
    annotation := .ofTypeExpr location d.type
    default? := d.default?.map Value.text
    description? := d.description?
    location := location }

/-- The parameters that are declared in a file, by name. -/
def Parameter.ofDecls (file : Option String) (ds : List ParameterDecl) : Dict Parameter :=
  .ofList (ds.map fun d ↦ (d.name, .ofDecl file d))

/-- The field that is declared in a file as part of the type `parent`. -/
def Field.ofDecl (file : Option String) (parent : String) (d : FieldDecl) : Field :=
  let location := Location.written file d.position
  { name := d.name
    parent := parent
    annotation := .ofTypeExpr location d.type
    parameters := Parameter.ofDecls file d.parameters
    description? := d.description?
    location := location }

/-- The enum value that is declared in a file. -/
def EnumValue.ofDecl (file : Option String) (d : EnumValueDecl) : EnumValue :=
  ⟨d.name, d.description?, .written file d.position⟩

/-- A field that a type declares twice. -/
structure RepeatedField where
  /-- The name of the field. -/
  name : String
  /-- Where it was declared first. -/
  first : Location
  /-- Where it was declared again. -/
  second : Location
  deriving DecidableEq

/-- Adds a declared field to those of a type, unless the type has one of that name. -/
def addField (file : Option String) (parent : String) (fields : Dict Field) (d : FieldDecl) :
    Except RepeatedField (Dict Field) :=
  match fields.get? d.name with
  | some known => .error ⟨d.name, known.location, .written file d.position⟩
  | none => .ok (fields.insert d.name (.ofDecl file parent d))

/-- The fields that a type declares, by name. -/
def fieldsOfDecls (file : Option String) (parent : String) (ds : List FieldDecl) :
    Except RepeatedField (Dict Field) :=
  ds.foldlM (addField file parent) .empty

/-- What a type declaration in a file says of the type. -/
def Shape.ofDecl (file : Option String) (d : TypeDecl) : Except RepeatedField Shape :=
  let refs := List.map fun name ↦ TypeRef.mk name (.written file d.position)
  match d.body with
  | .enum values => .ok (.enum (.ofList (values.map fun v ↦ (v.name, .ofDecl file v))))
  | .input fields => .ok (.input (Parameter.ofDecls file fields))
  | .interface interfaces fields => do
    return .interface (← fieldsOfDecls file d.name fields) (refs interfaces)
  | .object interfaces fields => do
    return .object (← fieldsOfDecls file d.name fields) (refs interfaces)
  | .scalar => .ok .scalar
  | .union members => .ok (.union (.ofList ((refs members).map fun r ↦ (r.name, r))))

/-- The type that is declared in a file. -/
def NamedType.ofDecl (file : Option String) (d : TypeDecl) : Except RepeatedField NamedType := do
  return ⟨d.name, d.description?, .written file d.position, ← Shape.ofDecl file d⟩

end GraphQLCheck
