import GraphQLCheck.BuiltInScalar
import GraphQLCheck.Declaration.Grammar
import GraphQLCheck.NamedType.OfDecl
import GraphQLCheck.Schema.BuildError

/-!
# Drafts of a schema

A `Draft` is what the declarations read so far add up to: the types by name, the built-in scalars
before all others, and the root types that schema declarations have named. `Draft.add` adds one
declaration, and fails if it clashes with those before it. Type extensions and directive
declarations add nothing.

When a type declaration has several faults, a repeated field is reported before a reserved name, and
a reserved name before a name in use.
-/

namespace GraphQLCheck

/-- The declarations of a schema so far. -/
structure Draft where
  /-- The root type named for queries. -/
  query? : Option RootDecl
  /-- The root type named for mutations. -/
  mutation? : Option RootDecl
  /-- The root type named for subscriptions. -/
  subscription? : Option RootDecl
  /-- The types, the built-in ones first. -/
  types : Dict NamedType

namespace Draft

/-- A built-in scalar as a type. -/
def builtInType (name description : String) : NamedType :=
  ⟨name, some description, .builtIn, .scalar⟩

/-- The types that a schema begins with. -/
def builtInTypes : Dict NamedType :=
  .ofList (BuiltInScalar.described.map fun (name, description) ↦
    (name, builtInType name description))

/-- The draft without any declarations. -/
def empty : Draft := ⟨none, none, none, builtInTypes⟩

/-- The root type named for an operation. -/
def root? (d : Draft) : OperationKind → Option RootDecl
  | .query => d.query?
  | .mutation => d.mutation?
  | .subscription => d.subscription?

/-- Names the root type of an operation. -/
def setRoot (d : Draft) (operation : OperationKind) (root : RootDecl) : Draft :=
  match operation with
  | .query => { d with query? := some root }
  | .mutation => { d with mutation? := some root }
  | .subscription => { d with subscription? := some root }

/-- Names the root type of an operation, if the declaration gives one and none is named yet. -/
def addRoot (location : Location) (d : Draft) (entry : OperationKind × Option String) :
    Except BuildError Draft :=
  match entry.2 with
  | none => .ok d
  | some type =>
    match d.root? entry.1 with
    | some known => .error (.duplicateRoot entry.1 known ⟨location, type⟩)
    | none => .ok (d.setRoot entry.1 ⟨location, type⟩)

/-- Adds a schema declaration: its roots for queries, mutations and subscriptions, in this order. -/
def addSchema (file : Option String) (d : Draft) (s : SchemaDecl) : Except BuildError Draft :=
  [(.query, s.query?), (.mutation, s.mutation?), (.subscription, s.subscription?)].foldlM
    (addRoot (.written file s.position)) d

/-- Whether a name is kept for introspection. -/
def isReserved (name : String) : Bool := name.toList.take 2 == ['_', '_']

/-- Adds a type, if its name is neither reserved nor in use. -/
def addType (d : Draft) (t : NamedType) : Except BuildError Draft :=
  if isReserved t.name then .error (.reservedName t.location t.name)
  else match d.types.get? t.name with
    | some known => .error (.duplicateType t.name known.location t.location)
    | none => .ok { d with types := d.types.insert t.name t }

/-- Adds a type declaration. -/
def addTypeDecl (file : Option String) (d : Draft) (decl : TypeDecl) : Except BuildError Draft :=
  match NamedType.ofDecl file decl with
  | .error repeated =>
    .error (.duplicateField decl.name repeated.name repeated.first repeated.second)
  | .ok t => d.addType t

/-- Adds a declaration. -/
def add (file : Option String) (d : Draft) : Declaration → Except BuildError Draft
  | .schema decl => d.addSchema file decl
  | .type decl => d.addTypeDecl file decl
  | .extension _ => .ok d
  | .directive _ => .ok d

/-- Adds the declarations of a document, up to the first that clashes. -/
def load (file : Option String) (d : Draft) (declarations : List Declaration) :
    Except BuildError Draft :=
  declarations.foldlM (add file) d

/-- Adds the declarations of a text. -/
def loadText (file : Option String) (d : Draft) (text : String) : Except BuildError Draft :=
  match Declaration.parse text with
  | .error fault => .error (.unparsable file fault)
  | .ok declarations => d.load file declarations

end Draft

end GraphQLCheck
