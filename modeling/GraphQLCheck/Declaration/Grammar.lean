import GraphQLCheck.Declaration
import GraphQLCheck.Document.Grammar
import GraphQLCheck.Kind

/-!
# The grammar of schema documents

`Declaration.parse` reads a schema document. Braces and parentheses of a declaration may be left
out, but they are not empty where they stand; only those of a schema declaration may be.

What a fault names as missing is part of what `Declaration.parse` says. The fields of a type and the
parameters are not named beside the end of their sequence, the values of an enum, the arguments and
the entries of a schema declaration are. Where the values of an enum should begin, nothing is named.
-/

namespace GraphQLCheck

namespace Declaration

/-- Directives, which are read and left out; tells whether there were any. -/
def directives (depth : Nat) : Parser Bool := do
  return !(← Document.directives false depth).isEmpty

/-- A parameter or a field of an input object. -/
def parameter (depth : Nat) : Parser ParameterDecl := do
  let position ← Parser.position
  let description ← Parser.string?
  let name ← Parser.name
  Parser.punct .colon
  let type ← TypeExpr.parser depth
  let default ← do
    if ← Parser.acceptPunct .equals then some <$> Value.parser true depth else pure none
  let _ ← directives depth
  return ⟨position, description, name, type, default⟩

/-- Parameters in parentheses, if there are any. -/
def parameters (depth : Nat) : Parser (List ParameterDecl) := do
  let found ← Parser.enclosed? .parenOpen .parenClose
    (fun depth ↦ Parser.someBefore none .parenClose (parameter depth)) depth
  return found.getD []

/-- A field of an object or of an interface. -/
def field (depth : Nat) : Parser FieldDecl := do
  let position ← Parser.position
  let description ← Parser.string?
  let name ← Parser.name
  let parameters ← parameters depth
  Parser.punct .colon
  let type ← TypeExpr.parser depth
  let _ ← directives depth
  return ⟨position, description, name, parameters, type⟩

/-- A value of an enum. -/
def enumValue (depth : Nat) : Parser EnumValueDecl := do
  let position ← Parser.position
  let description ← Parser.string?
  let name ← Parser.name
  let _ ← directives depth
  return ⟨position, description, name⟩

/-- What stands in braces, if there are any. -/
def braced {α : Type} (items : Nat → Parser (List α)) (depth : Nat) : Parser (List α) := do
  let found ← Parser.enclosed? .braceOpen .braceClose items depth
  return found.getD []

/-- Fields of an object or of an interface, in braces. -/
def fields : Nat → Parser (List FieldDecl) :=
  braced fun depth ↦ Parser.someBefore none .braceClose (field depth)

/-- Fields of an input object, in braces. -/
def inputFields : Nat → Parser (List ParameterDecl) :=
  braced fun depth ↦ Parser.someBefore none .braceClose (parameter depth)

/-- Values of an enum, in braces. -/
def enumValues : Nat → Parser (List EnumValueDecl) :=
  braced fun depth ↦ do
    let first ← Parser.insteadOf [] (enumValue depth)
    let rest ← Parser.manyBefore "a name" .braceClose (enumValue depth)
    return first :: rest

/-- The interfaces that a type implements. -/
def interfaces : Parser (List String) := do
  if ← Parser.acceptWord "implements" then
    let _ ← Parser.acceptPunct .amp
    Parser.separated .amp Parser.name
  else
    return []

/-- The members of a union. -/
def members : Parser (List String) := do
  if ← Parser.acceptPunct .equals then
    if ← Parser.acceptPunct .pipe then Parser.separated .pipe Parser.name
    else Parser.insteadOf [Punct.pipe.text, "a name"] (Parser.separated .pipe Parser.name)
  else
    return []

/-- The kind of type that a token is the keyword of. -/
def kindOf? (lexeme : Lexeme) : Option Kind :=
  Kind.all.find? fun kind ↦ lexeme == .name kind.keyword

/-- A type declaration, after its keyword: the name, the body, and whether anything besides the name
is declared. -/
def typeParts (kind : Kind) (depth : Nat) : Parser (String × TypeBody × Bool) := do
  let name ← Parser.name
  match kind with
  | .scalar =>
    let marked ← directives depth
    return (name, .scalar, marked)
  | .object =>
    let interfaces ← interfaces
    let marked ← directives depth
    let fields ← fields depth
    return (name, .object interfaces fields, !interfaces.isEmpty || marked || !fields.isEmpty)
  | .interface =>
    let interfaces ← interfaces
    let marked ← directives depth
    let fields ← fields depth
    return (name, .interface interfaces fields, marked || !fields.isEmpty)
  | .union =>
    let marked ← directives depth
    let members ← members
    return (name, .union members, marked || !members.isEmpty)
  | .enum =>
    let marked ← directives depth
    let values ← enumValues depth
    return (name, .enum values, marked || !values.isEmpty)
  | .inputObject =>
    let marked ← directives depth
    let fields ← inputFields depth
    return (name, .input fields, marked || !fields.isEmpty)

/-- A type extension, after its first keyword: it has to declare something besides the name. -/
def extended (depth : Nat) : Parser Declaration := do
  let position ← Parser.position
  let kind ← Parser.take ["a kind of type"] kindOf?
  let (name, _, more) ← typeParts kind depth
  if more then return .extension name
  else Parser.refuse position ("nothing is added to the " ++ kind.keyword)

/-- The places in which a directive may stand. -/
def directivePlaces : List String :=
  ["QUERY", "MUTATION", "SUBSCRIPTION", "FIELD", "FRAGMENT_DEFINITION", "FRAGMENT_SPREAD",
    "INLINE_FRAGMENT", "SCHEMA", "SCALAR", "OBJECT", "FIELD_DEFINITION", "ARGUMENT_DEFINITION",
    "INTERFACE", "UNION", "ENUM", "ENUM_VALUE", "INPUT_OBJECT", "INPUT_FIELD_DEFINITION",
    "VARIABLE_DEFINITION"]

/-- One of the places in which a directive may stand. -/
def directivePlace : Parser Unit := do
  let position ← Parser.position
  let place ← Parser.name
  if directivePlaces.contains place then return ()
  else Parser.refuse position "no directive may stand there"

/-- A directive declaration, after its keyword. -/
def directiveDecl (depth : Nat) : Parser Declaration := do
  Parser.punct .at
  let name ← Parser.name
  let _ ← parameters depth
  if ← Parser.acceptWord "repeatable" then Parser.word "on"
  else Parser.insteadOf ["repeatable", "on"] (Parser.word "on")
  match ← Parser.peek with
  | some (.name _) | some (.punct .pipe) =>
    let _ ← Parser.acceptPunct .pipe
    let _ ← Parser.separated .pipe directivePlace
    return .directive name
  | _ => return .directive name

/-- One entry of a schema declaration: a word and the name of a root type. -/
def rootEntry : Parser (String × String) := do
  let key ← Parser.name
  Parser.punct .colon
  return (key, ← Parser.name)

/-- The words for the operations. -/
def operationWords : List String := ["query", "mutation", "subscription"]

/-- What is wrong with the words of a schema declaration, in order: each is the word for an
operation, and none comes twice. -/
def rootFaults (before : List String) : List String → List String
  | [] => []
  | key :: keys =>
    let found :=
      if !operationWords.contains key then ["no operation is called " ++ key]
      else if before.contains key then ["a second root type for " ++ key]
      else []
    found ++ rootFaults (key :: before) keys

/-- A schema declaration, after its keyword: each operation occurs at most once. -/
def schemaDecl (position : Position) (depth : Nat) : Parser Declaration := do
  let _ ← directives depth
  let entries ← Parser.enclosed .braceOpen .braceClose
    (fun _ ↦ Parser.manyBefore "an entry" .braceClose rootEntry) depth
  match rootFaults [] (entries.map Prod.fst) with
  | [] =>
    return .schema
      ⟨position, entries.lookup "query", entries.lookup "mutation", entries.lookup "subscription"⟩
  | faults => Parser.refuse position (", ".intercalate faults.eraseDups)

/-- The words that a declaration may begin with. -/
inductive Keyword where
  | directive
  | extend
  | schema
  | type (kind : Kind)

/-- The keyword that a token is, after a description or without one. Only types and directives may
have a description. -/
def Keyword.ofLexeme? (described : Bool) (lexeme : Lexeme) : Option Keyword :=
  if lexeme = .name "directive" then some .directive
  else if lexeme = .name "extend" && !described then some .extend
  else if lexeme = .name "schema" && !described then some .schema
  else (kindOf? lexeme).map .type

/-- A declaration. -/
def declaration (depth : Nat) : Parser Declaration := do
  let description ← Parser.string?
  let position ← Parser.position
  let expected := if description.isSome then "what is described" else "a declaration"
  match ← Parser.take [expected] (Keyword.ofLexeme? description.isSome) with
  | .directive => directiveDecl depth
  | .extend => extended depth
  | .schema => schemaDecl position depth
  | .type kind =>
    let (name, body, _) ← typeParts kind depth
    return .type ⟨position, description, name, body⟩

/-- The declarations of a schema document, or why the text is none. -/
def parse (text : String) : Except ParseFault (List Declaration) :=
  (Parser.document (declaration nestingLimit)).parse text

end Declaration

end GraphQLCheck
