import GraphQLCheck.Document
import GraphQLCheck.NamedType

/-!
# Schemas

A `Schema` has its types by name, the root types of the operations, and for every interface and
union the names of the types that can appear in its place. A schema comes out of `Draft.build` and
is only read from then on.
-/

namespace GraphQLCheck

/-- The types of a service, and where its operations begin. -/
structure Schema where
  /-- The root type of queries. -/
  query : TypeRef
  /-- The root type of mutations. -/
  mutation? : Option TypeRef
  /-- The root type of subscriptions. -/
  subscription? : Option TypeRef
  /-- The types by name, the built-in ones first. -/
  types : Dict NamedType
  /-- By the name of an abstract type, the names of the types that can appear in its place. -/
  possible : Dict (List String)

/-- A name that no type of the schema has. -/
structure Dangling where
  /-- The name. -/
  name : String
  deriving DecidableEq

/-- The failure in words. -/
def Dangling.message (d : Dangling) : String := "No definition found for `" ++ d.name ++ "`"

namespace Schema

/-- The type of a name. -/
def type? (s : Schema) (name : String) : Option NamedType := s.types.get? name

/-- The type that a reference names, or that there is none. -/
def resolve (s : Schema) (ref : TypeRef) : Except Dangling NamedType :=
  match s.type? ref.name with
  | some t => .ok t
  | none => .error ⟨ref.name⟩

/-- The type of a name, if it is an object. -/
def object? (s : Schema) (name : String) : Option NamedType :=
  (s.type? name).filter fun t ↦ t.kind == .object

/-- The reference to the root type of an operation. -/
def rootRef? (s : Schema) : OperationKind → Option TypeRef
  | .query => some s.query
  | .mutation => s.mutation?
  | .subscription => s.subscription?

/-- The root type of an operation. -/
def rootType? (s : Schema) (kind : OperationKind) : Option NamedType :=
  (s.rootRef? kind).bind fun ref ↦ s.object? ref.name

/-- The types that come from declarations. -/
def definedTypes (s : Schema) : List NamedType := s.types.values.filter fun t ↦ !t.isBuiltIn

/-- The names of the types that can appear in the place of an abstract type. -/
def possibleNames (s : Schema) (t : NamedType) : List String :=
  if t.isAbstract then (s.possible.get? t.name).getD [] else []

/-- The types that can appear in the place of an abstract type. -/
def possibleTypes (s : Schema) (t : NamedType) : List NamedType :=
  (s.possibleNames t).filterMap s.type?

/-- Whether the type of a name can appear in the place of an abstract type. -/
def isPossible (s : Schema) (t : NamedType) (name : String) : Bool :=
  (s.possibleNames t).contains name

/-- The type of a field's value inside all lists. -/
def returnType? (s : Schema) (f : Field) : Option NamedType :=
  s.type? f.annotation.innermost.name

/-- The interfaces that a type implements. -/
def interfacesOf (s : Schema) (t : NamedType) : List NamedType :=
  (t.interfaces.filterMap fun ref ↦ s.type? ref.name).filter fun i ↦ i.kind == .interface

/-- The members of a union. -/
def membersOf (s : Schema) (t : NamedType) : List NamedType :=
  t.members.filterMap fun ref ↦ s.type? ref.name

/-- The same schema, whatever the order of types and other dictionaries and the spelling of file
names. The order of the types that can appear in the place of another one counts. -/
def same (s t : Schema) : Bool :=
  s.query.plain == t.query.plain &&
    s.mutation?.map TypeRef.plain == t.mutation?.map TypeRef.plain &&
    s.subscription?.map TypeRef.plain == t.subscription?.map TypeRef.plain &&
    s.types.sameBy NamedType.same t.types && s.possible.sameBy (· == ·) t.possible

end Schema

end GraphQLCheck
