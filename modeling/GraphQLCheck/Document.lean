import GraphQLCheck.TypeExpr
import GraphQLCheck.Value

/-!
# Operation documents

What a client asks: a list of operations and fragment definitions, each with a tree of selections. A
selection is a field, an inline fragment or the spread of a fragment by its name. The part of a
selection that stands before its own selections is its head, so that a tree is heads and lists of
trees.

A field without selections has an empty list below it; its span is never looked at.
-/

namespace GraphQLCheck

/-- The kinds of operation. -/
inductive OperationKind where
  | query
  | mutation
  | subscription
  deriving DecidableEq, Repr, Inhabited

/-- The keyword of a kind of operation. -/
def OperationKind.keyword : OperationKind → String
  | .query => "query"
  | .mutation => "mutation"
  | .subscription => "subscription"

/-- Arguments by name. -/
abbrev Arguments := List (String × Value)

/-- A directive with its arguments. -/
structure Directive where
  /-- The name after the at sign. -/
  name : String
  /-- What it is given. -/
  arguments : Arguments

/-- A variable of an operation. -/
structure VariableDef where
  /-- The name after the dollar sign. -/
  name : String
  /-- Its type. -/
  type : TypeExpr
  /-- Its value when none is given. -/
  default? : Option Value

/-- A field before its selections. -/
structure FieldHead where
  /-- Where it begins, at the alias if it has one. -/
  position : Position
  /-- The name of its value in the answer, if that is not the name of the field. -/
  alias? : Option String
  /-- The name of the field. -/
  name : String
  /-- What the field is given. -/
  arguments : Arguments
  /-- The directives on it. -/
  directives : List Directive

/-- An inline fragment before its selections. -/
structure InlineHead where
  /-- The token after the three points. -/
  position : Position
  /-- The type it applies to, unless that is the enclosing one. -/
  condition? : Option String
  /-- The directives on it. -/
  directives : List Directive

/-- A fragment by its name. -/
structure Spread where
  /-- Where the name stands. -/
  position : Position
  /-- The name of the fragment. -/
  name : String
  /-- The directives on it. -/
  directives : List Directive

/-- One of the things selected from a type. -/
inductive Selection where
  | field (head : FieldHead) (span : Span) (selections : List Selection)
  | inline (head : InlineHead) (span : Span) (selections : List Selection)
  | spread (spread : Spread)

/-- An operation before its selections, when it begins with a keyword. -/
structure OperationHead where
  /-- Where the keyword stands. -/
  position : Position
  /-- Which operation it is. -/
  kind : OperationKind
  /-- Its name. -/
  name? : Option String
  /-- Its variables. -/
  variableDefs : List VariableDef
  /-- The directives on it. -/
  directives : List Directive

/-- An operation: selections from a root type. One without a head is a query. -/
structure Operation where
  /-- What stands before the selections. -/
  head? : Option OperationHead
  /-- Where the selections stand. -/
  span : Span
  /-- What is selected. -/
  selections : List Selection

/-- Which operation it is. -/
def Operation.kind (op : Operation) : OperationKind :=
  match op.head? with
  | none => .query
  | some head => head.kind

/-- A named piece of selections on a type. -/
structure Fragment where
  /-- Where the keyword stands. -/
  position : Position
  /-- Its name. -/
  name : String
  /-- The type it applies to. -/
  condition : String
  /-- The directives on it. -/
  directives : List Directive
  /-- Where the selections stand. -/
  span : Span
  /-- What is selected. -/
  selections : List Selection

/-- An operation or a fragment definition. -/
inductive Definition where
  | operation (operation : Operation)
  | fragment (fragment : Fragment)

/-- The definitions of an operation document. -/
structure Document where
  /-- The definitions, in the order of the text. -/
  definitions : List Definition

end GraphQLCheck
