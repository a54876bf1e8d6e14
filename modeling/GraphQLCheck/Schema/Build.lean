import GraphQLCheck.Schema
import GraphQLCheck.Schema.Draft

/-!
# From a draft to a schema

`Draft.build` makes a schema of the declarations that have been read. First the types must not
violate the rules between them; then each operation gets its root type (`resolveRoot`): the one that
a schema declaration names, which has to be an object, or else the object with the conventional
name, if there is one. There has to be a root type for queries.

`possibleTypes` goes through the types in order. Each object is appended to the lists of the
interfaces it declares, and each union has its members.
-/

namespace GraphQLCheck

/-- The name of an operation's root type where no schema declaration names one. -/
def OperationKind.conventionalRoot : OperationKind → String
  | .query => "Query"
  | .mutation => "Mutation"
  | .subscription => "Subscription"

/-- The root type of an operation. -/
def resolveRoot (types : Dict NamedType) (operation : OperationKind) :
    Option RootDecl → Except BuildError (Option TypeRef)
  | none =>
    match types.get? operation.conventionalRoot with
    | some t =>
      .ok (if t.kind = .object then some ⟨operation.conventionalRoot, t.location⟩ else none)
    | none => .ok none
  | some root =>
    match types.get? root.type with
    | some t =>
      if t.kind = .object then .ok (some ⟨root.type, root.location⟩)
      else .error (.rootNotObject operation root.type t.kind)
    | none => .error (.rootUndefined operation root.location root.type)

/-- Appends an object to the types that can appear in the place of an interface. -/
def addPossible (object : String) (index : Dict (List String)) (interface : String) :
    Dict (List String) :=
  index.insert interface ((index.get? interface).getD [] ++ [object])

/-- What a type adds to the types that can appear in the place of others. -/
def indexType (index : Dict (List String)) (t : NamedType) : Dict (List String) :=
  match t.shape with
  | .object _ _ => t.interfaceNames.foldl (addPossible t.name) index
  | .union _ => index.insert t.name t.memberNames
  | _ => index

/-- By the name of an interface or union, the types that can appear in its place. -/
def possibleTypes (types : Dict NamedType) : Dict (List String) :=
  types.values.foldl indexType .empty

namespace Draft

/-- The schema of a draft. -/
def build (d : Draft) : Except BuildError Schema := do
  let found := violations d.types
  if !found.isEmpty then throw (.invalidTypes found)
  let some query ← resolveRoot d.types .query d.query? | throw .noQueryRoot
  let mutation ← resolveRoot d.types .mutation d.mutation?
  let subscription ← resolveRoot d.types .subscription d.subscription?
  return ⟨query, mutation, subscription, d.types, possibleTypes d.types⟩

end Draft

end GraphQLCheck
