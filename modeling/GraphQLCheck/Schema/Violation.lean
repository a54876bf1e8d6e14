import GraphQLCheck.NamedType

/-!
# Violations

What can be wrong between the types of a schema, and where. `violations` lists all of it: for every
type in order, for an object or an interface each field and its parameters and then each interface
it declares to implement, for a union each member. Enums, input objects and scalars are not looked
into.
-/

namespace GraphQLCheck

/-- Something wrong with a type of a schema. -/
inductive Violation where
  /-- A type declares to implement one that is not an interface. -/
  | implementsNonInterface (type notInterface : String) (location : Location)
  /-- A type declares to implement one that is not defined. -/
  | implementsUndefined (type interface : String) (location : Location)
  /-- A parameter of an interface's field has another type on the implementing type. -/
  | parameterMismatch (location : Location)
    (expected field interface actual parameter type : String)
  /-- A field gives back an input object. -/
  | outputOfInputType (location : Location) (field inputType parent : String)
  /-- A parameter takes what can only be answered. -/
  | inputOfOutputType (location : Location) (parameter outputType : String)
  /-- A member of a union is neither an object nor an interface. -/
  | memberKind (location : Location) (union member : String) (kind : Kind)
  /-- A field of an interface is missing on the implementing type. -/
  | missingField (location : Location) (field interface type : String)
  /-- A parameter of an interface's field is missing on the implementing type. -/
  | missingParameter (location : Location) (field interface parameter type : String)
  /-- A type that is referred to is not defined. -/
  | undefinedType (location : Location) (type : String)
  deriving DecidableEq

namespace Violation

/-- Where the violation is. -/
def location : Violation → Location
  | implementsNonInterface _ _ location => location
  | implementsUndefined _ _ location => location
  | parameterMismatch location _ _ _ _ _ _ => location
  | outputOfInputType location _ _ _ => location
  | inputOfOutputType location _ _ => location
  | memberKind location _ _ _ => location
  | missingField location _ _ _ => location
  | missingParameter location _ _ _ _ => location
  | undefinedType location _ => location

/-- The violation with its file name in plain form. -/
def plain : Violation → Violation
  | implementsNonInterface type notInterface location =>
    implementsNonInterface type notInterface location.plain
  | implementsUndefined type interface location => implementsUndefined type interface location.plain
  | parameterMismatch location expected field interface actual parameter type =>
    parameterMismatch location.plain expected field interface actual parameter type
  | outputOfInputType location field inputType parent =>
    outputOfInputType location.plain field inputType parent
  | inputOfOutputType location parameter outputType =>
    inputOfOutputType location.plain parameter outputType
  | memberKind location union member kind => memberKind location.plain union member kind
  | missingField location field interface type => missingField location.plain field interface type
  | missingParameter location field interface parameter type =>
    missingParameter location.plain field interface parameter type
  | undefinedType location type => undefinedType location.plain type

/-- A name in the code marks of a message. -/
def code (name : String) : String := "`" ++ name ++ "`"

/-- The violation in words. -/
def message : Violation → String
  | implementsNonInterface type notInterface _ =>
    "The " ++ code type ++ " type attempts to implement " ++ code notInterface ++
      ", which is not an interface type"
  | implementsUndefined type interface _ =>
    "The " ++ code type ++ " type attempts to implement " ++ code interface ++
      ", which is not defined in the schema"
  | parameterMismatch _ expected field interface actual parameter type =>
    code (type ++ "." ++ field) ++ " declares the " ++ code parameter ++ " parameter as " ++
      code actual ++ ", but the " ++ code interface ++ " interface declares it as " ++ code expected
  | outputOfInputType _ field inputType parent =>
    "Output fields can not be declared with an input type: The " ++ code (parent ++ "." ++ field) ++
      " field is an output field, but the " ++ code inputType ++ " type is an input-type"
  | inputOfOutputType _ parameter outputType =>
    "Parameters can only be declared with input-compatible types: The " ++ code parameter ++
      " parameter was declared with the " ++ code outputType ++
      " type, which is not an input-compatible type."
  | memberKind _ union member kind =>
    "Union members must be object or interface types, but " ++ code union ++ " lists " ++
      code member ++ " which is a " ++ kind.name ++ " type"
  | missingField _ field interface type =>
    "The " ++ code type ++ " type implements the " ++ code interface ++
      " interface, but does not define the " ++ code field ++ " field required by it"
  | missingParameter _ field interface parameter type =>
    code (type ++ "." ++ field) ++ " is missing the " ++ code parameter ++
      " parameter required by the " ++ code interface ++ " interface"
  | undefinedType _ type => "Reference to an undefined type: " ++ code type

end Violation

/-! ### Finding them -/

/-- What is wrong with the type of a parameter. -/
def Parameter.violations (types : Dict NamedType) (p : Parameter) : List Violation :=
  let name := p.annotation.innermost.name
  match types.get? name with
  | none => [.undefinedType p.annotation.location name]
  | some t => if t.isInput then [] else [.inputOfOutputType p.location p.name name]

/-- What is wrong with the type of a field. -/
def Field.outputViolations (types : Dict NamedType) (parent : String) (f : Field) :
    List Violation :=
  let name := f.annotation.innermost.name
  match types.get? name with
  | none => [.undefinedType f.annotation.location name]
  | some t => if t.isOutput then [] else [.outputOfInputType f.location f.name name parent]

/-- What is wrong with a field: its type, and then its parameters. -/
def Field.violations (types : Dict NamedType) (parent : String) (f : Field) : List Violation :=
  f.outputViolations types parent ++ f.parameters.values.flatMap (Parameter.violations types)

/-- What is wrong with the field `own` of the type `type` as one that the interface `interface`
demands with the parameter `demanded`. -/
def Field.parameterViolations (type interface : String) (own : Field) (demanded : Parameter) :
    List Violation :=
  match own.parameters.get? demanded.name with
  | none => [.missingParameter own.location own.name interface demanded.name type]
  | some p =>
    if p.annotation.equivalent demanded.annotation then []
    else [.parameterMismatch p.location demanded.annotation.text own.name interface
      p.annotation.text demanded.name type]

/-- What is wrong with the fields of a type as ones among which the interface `interface` demands
the field `demanded`. -/
def NamedType.demandViolations (t : NamedType) (fields : Dict Field) (interface : String)
    (demanded : Field) : List Violation :=
  match fields.get? demanded.name with
  | none => [.missingField t.location demanded.name interface t.name]
  | some own =>
    demanded.parameters.values.flatMap (own.parameterViolations t.name interface)

/-- What is wrong with a type as one that implements an interface. -/
def NamedType.interfaceViolations (types : Dict NamedType) (t : NamedType) (fields : Dict Field)
    (ref : TypeRef) : List Violation :=
  match types.get? ref.name with
  | none => [.implementsUndefined t.name ref.name ref.location]
  | some i =>
    match i.shape with
    | .interface demanded _ => demanded.values.flatMap (t.demandViolations fields ref.name)
    | _ => [.implementsNonInterface t.name ref.name ref.location]

/-- What is wrong with a member of a union. -/
def NamedType.memberViolations (types : Dict NamedType) (t : NamedType) (ref : TypeRef) :
    List Violation :=
  match types.get? ref.name with
  | none => [.undefinedType ref.location ref.name]
  | some member =>
    match member.kind with
    | .interface | .object => []
    | kind => [.memberKind ref.location t.name member.name kind]

/-- What is wrong with an object or an interface: its fields, and then its interfaces. -/
def NamedType.fieldsViolations (types : Dict NamedType) (t : NamedType) (fields : Dict Field)
    (interfaces : List TypeRef) : List Violation :=
  fields.values.flatMap (Field.violations types t.name) ++
    interfaces.flatMap (t.interfaceViolations types fields)

/-- What is wrong with a type. -/
def NamedType.violations (types : Dict NamedType) (t : NamedType) : List Violation :=
  match t.shape with
  | .interface fields interfaces => t.fieldsViolations types fields interfaces
  | .object fields interfaces => t.fieldsViolations types fields interfaces
  | .union members => members.values.flatMap (t.memberViolations types)
  | .enum _ | .input _ | .scalar => []

/-- Everything that is wrong with the types of a schema. -/
def violations (types : Dict NamedType) : List Violation :=
  types.values.flatMap (NamedType.violations types)

end GraphQLCheck
