import GraphQLCheck.Annotation
import GraphQLCheck.Dict
import GraphQLCheck.Kind

/-!
# The types of a schema

A `NamedType` has a name, a description and a location, and a `Shape` that says of which kind it is
and what it holds: the values of an enum, the fields of an input object, the fields and interfaces
of an object or an interface, the members of a union. Types refer to each other by name.

Equality that looks neither at the order of dictionaries nor at the spelling of file names is
`NamedType.same`.
-/

namespace GraphQLCheck

/-- A parameter of a field, or a field of an input object. -/
structure Parameter where
  /-- Its name. -/
  name : String
  /-- Its type. -/
  annotation : Annotation
  /-- Its value when none is given, as GraphQL text. -/
  default? : Option String
  /-- What it is for. -/
  description? : Option String
  /-- Where it was defined. -/
  location : Location
  deriving DecidableEq

/-- A field of an object or of an interface. -/
structure Field where
  /-- Its name. -/
  name : String
  /-- The name of the type that declares it. -/
  parent : String
  /-- The type of its value. -/
  annotation : Annotation
  /-- What it takes. -/
  parameters : Dict Parameter
  /-- What it is for. -/
  description? : Option String
  /-- Where it was defined. -/
  location : Location
  deriving DecidableEq

/-- A value of an enum. -/
structure EnumValue where
  /-- Its name. -/
  name : String
  /-- What it means. -/
  description? : Option String
  /-- Where it was defined. -/
  location : Location
  deriving DecidableEq

/-- What a type holds, by its kind. -/
inductive Shape where
  | enum (values : Dict EnumValue)
  | input (fields : Dict Parameter)
  | interface (fields : Dict Field) (interfaces : List TypeRef)
  | object (fields : Dict Field) (interfaces : List TypeRef)
  | scalar
  | union (members : Dict TypeRef)
  deriving DecidableEq

/-- A type of a schema. -/
structure NamedType where
  /-- Its name. -/
  name : String
  /-- What it is for. -/
  description? : Option String
  /-- Where it was defined. -/
  location : Location
  /-- What it holds. -/
  shape : Shape
  deriving DecidableEq

namespace NamedType

/-- The kind of a type. -/
def kind (t : NamedType) : Kind :=
  match t.shape with
  | .enum _ => .enum
  | .input _ => .inputObject
  | .interface _ _ => .interface
  | .object _ _ => .object
  | .scalar => .scalar
  | .union _ => .union

/-- The fields that can be selected from a type. Only objects and interfaces have any. -/
def fields? (t : NamedType) : Option (Dict Field) :=
  match t.shape with
  | .interface fields _ => some fields
  | .object fields _ => some fields
  | _ => none

/-- A field that can be selected from a type. -/
def field? (t : NamedType) (name : String) : Option Field := t.fields?.bind (·.get? name)

/-- The interfaces that a type declares to implement, in the order written. -/
def interfaces (t : NamedType) : List TypeRef :=
  match t.shape with
  | .interface _ interfaces => interfaces
  | .object _ interfaces => interfaces
  | _ => []

/-- The names of the interfaces that a type declares to implement. -/
def interfaceNames (t : NamedType) : List String := t.interfaces.map TypeRef.name

/-- The members of a union. -/
def members (t : NamedType) : List TypeRef :=
  match t.shape with
  | .union members => members.values
  | _ => []

/-- The names of the members of a union, in the order of their first mention. -/
def memberNames (t : NamedType) : List String :=
  match t.shape with
  | .union members => members.keys
  | _ => []

/-- Interfaces and unions: other types appear in their place. -/
def isAbstract (t : NamedType) : Bool :=
  match t.kind with
  | .interface | .union => true
  | _ => false

/-- Types that something can be selected from. -/
def isComposite (t : NamedType) : Bool :=
  match t.kind with
  | .interface | .object | .union => true
  | _ => false

/-- Types of what can be given. -/
def isInput (t : NamedType) : Bool :=
  match t.kind with
  | .enum | .inputObject | .scalar => true
  | _ => false

/-- Types of what can be answered. -/
def isOutput (t : NamedType) : Bool := t.kind != .inputObject

/-- Whether a type is part of every schema. -/
def isBuiltIn (t : NamedType) : Bool := t.kind == .scalar && t.location == .builtIn

end NamedType

/-! ### Equality up to the order of dictionaries and the spelling of file names -/

/-- The parameter with its file names in plain form. -/
def Parameter.plain (p : Parameter) : Parameter :=
  { p with annotation := p.annotation.plain, location := p.location.plain }

/-- The enum value with its file name in plain form. -/
def EnumValue.plain (v : EnumValue) : EnumValue := { v with location := v.location.plain }

/-- The same parameters, whatever their order. -/
def sameParameters (ps qs : Dict Parameter) : Bool :=
  ps.sameBy (fun p q ↦ p.plain == q.plain) qs

/-- The same field, whatever the order of its parameters. -/
def Field.same (f g : Field) : Bool :=
  f.name == g.name && f.parent == g.parent && f.annotation.plain == g.annotation.plain &&
    sameParameters f.parameters g.parameters && f.description? == g.description? &&
    f.location.plain == g.location.plain

/-- The same fields and interfaces, whatever the order of the fields; that of the interfaces counts.
-/
def sameMembers (fields fields' : Dict Field) (interfaces interfaces' : List TypeRef) : Bool :=
  fields.sameBy Field.same fields' &&
    interfaces.map TypeRef.plain == interfaces'.map TypeRef.plain

/-- The same contents, whatever the order of dictionaries. -/
def Shape.same : Shape → Shape → Bool
  | .enum values, .enum values' => values.sameBy (fun v w ↦ v.plain == w.plain) values'
  | .input fields, .input fields' => sameParameters fields fields'
  | .interface fields interfaces, .interface fields' interfaces' =>
    sameMembers fields fields' interfaces interfaces'
  | .object fields interfaces, .object fields' interfaces' =>
    sameMembers fields fields' interfaces interfaces'
  | .scalar, .scalar => true
  | .union members, .union members' => members.sameBy (fun r s ↦ r.plain == s.plain) members'
  | _, _ => false

/-- The same type, whatever the order of dictionaries. -/
def NamedType.same (t u : NamedType) : Bool :=
  t.name == u.name && t.description? == u.description? &&
    t.location.plain == u.location.plain && t.shape.same u.shape

end GraphQLCheck
