import GraphQLCheck.TypeExpr
import GraphQLCheck.Value

/-!
# Schema documents

What a schema document declares, as it is written: types of six kinds, schema declarations that name
the root types, and type extensions and directive declarations, of which nothing but the name is
kept. Directives on declarations are read and left out.

A declaration stands at its keyword. A field, a parameter or an enum value stands at its description
if it has one, and at its name otherwise.
-/

namespace GraphQLCheck

/-- A parameter of a field, or a field of an input object. -/
structure ParameterDecl where
  position : Position
  description? : Option String
  name : String
  type : TypeExpr
  default? : Option Value

/-- A field of an object or of an interface. -/
structure FieldDecl where
  position : Position
  description? : Option String
  name : String
  parameters : List ParameterDecl
  type : TypeExpr

/-- A value of an enum. -/
structure EnumValueDecl where
  position : Position
  description? : Option String
  name : String

/-- What is declared of a type, by its kind. -/
inductive TypeBody where
  | enum (values : List EnumValueDecl)
  | input (fields : List ParameterDecl)
  | interface (interfaces : List String) (fields : List FieldDecl)
  | object (interfaces : List String) (fields : List FieldDecl)
  | scalar
  | union (members : List String)

/-- A type declaration. -/
structure TypeDecl where
  position : Position
  description? : Option String
  name : String
  body : TypeBody

/-- A schema declaration, with the names of root types that it gives. -/
structure SchemaDecl where
  position : Position
  query? : Option String
  mutation? : Option String
  subscription? : Option String

/-- A declaration of a schema document. -/
inductive Declaration where
  | schema (decl : SchemaDecl)
  | type (decl : TypeDecl)
  | extension (name : String)
  | directive (name : String)

end GraphQLCheck
