/-!
# Kinds of type

The six kinds of type that a schema can declare, each with the name that messages call it by and the
keyword that declares it.
-/

namespace GraphQLCheck

/-- The six kinds of type. -/
inductive Kind where
  | enum
  | inputObject
  | interface
  | object
  | scalar
  | union
  deriving DecidableEq, Repr, Inhabited

/-- The name of a kind. -/
def Kind.name : Kind → String
  | .enum => "Enum"
  | .inputObject => "InputObject"
  | .interface => "Interface"
  | .object => "Object"
  | .scalar => "Scalar"
  | .union => "Union"

/-- The keyword of a kind of type. -/
def Kind.keyword : Kind → String
  | .enum => "enum"
  | .inputObject => "input"
  | .interface => "interface"
  | .object => "type"
  | .scalar => "scalar"
  | .union => "union"

/-- All kinds. -/
def Kind.all : List Kind := [.enum, .inputObject, .interface, .object, .scalar, .union]

/-- The kind that a name calls. -/
def Kind.ofName? (name : String) : Option Kind := all.find? fun k ↦ k.name == name

theorem Kind.ofName?_name (k : Kind) : ofName? k.name = some k := by
  cases k <;> decide

end GraphQLCheck
