import GraphQLCheck.Document

/-!
# The grammar of operation documents

`Document.parse` reads an operation document. Every function that opens brackets takes the number
of brackets that may still be opened; selection sets recur on it.
-/

namespace GraphQLCheck

namespace Document

/-- A name, a colon and a value. -/
def argument (constant : Bool) (depth : Nat) : Parser (String × Value) := do
  let name ← Parser.name
  Parser.punct .colon
  return (name, ← Value.parser constant depth)

/-- Arguments in parentheses, if there are any. -/
def arguments (constant : Bool) (depth : Nat) : Parser Arguments := do
  let found ← Parser.enclosed? .parenOpen .parenClose
    (fun depth ↦ Parser.someBefore "an argument" .parenClose (argument constant depth)) depth
  return found.getD []

/-- A name and arguments, after the at sign. -/
def directive (constant : Bool) (depth : Nat) : Parser Directive := do
  let name ← Parser.name
  return ⟨name, ← arguments constant depth⟩

/-- Directives, as many as there are. -/
def directives (constant : Bool) (depth : Nat) : Parser (List Directive) :=
  Parser.manyAfter .at (directive constant depth)

/-- Selections in braces with the positions of the braces, from a parser for one selection. -/
def braced (selection : Parser Selection) : Parser (Span × List Selection) := do
  let start ← Parser.position
  Parser.punct .braceOpen
  let selections ← Parser.someBefore none .braceClose selection
  let stop ← Parser.position
  Parser.punct .braceClose
  return (⟨start, stop⟩, selections)

/-- A field, from a parser for the selections below it. -/
def field (set : Parser (Span × List Selection)) (depth : Nat) : Parser Selection := do
  let position ← Parser.position
  let first ← Parser.name
  let second ← do
    if ← Parser.acceptPunct .colon then some <$> Parser.name else pure none
  let arguments ← arguments false depth
  let directives ← directives false depth
  let head : FieldHead := match second with
    | none => ⟨position, none, first, arguments, directives⟩
    | some name => ⟨position, some first, name, arguments, directives⟩
  if (← Parser.peek) = some (.punct .braceOpen) then
    let (span, selections) ← set
    return .field head span selections
  else
    return .field head ⟨position, position⟩ []

/-- What follows three points: a type condition and selections, selections alone, or the name of a
fragment. -/
def afterEllipsis (set : Parser (Span × List Selection)) (depth : Nat) : Parser Selection := do
  let position ← Parser.position
  match ← Parser.name? with
  | some word =>
    if word = "on" then
      let condition ← Parser.name
      let directives ← directives false depth
      let (span, selections) ← set
      return .inline ⟨position, some condition, directives⟩ span selections
    else
      return .spread ⟨position, word, ← directives false depth⟩
  | none =>
    let directives ← directives false depth
    let (span, selections) ← set
    return .inline ⟨position, none, directives⟩ span selections

/-- One selection, from a parser for the selections below it. -/
def selection (set : Parser (Span × List Selection)) (depth : Nat) : Parser Selection := do
  if ← Parser.acceptPunct .ellipsis then afterEllipsis set depth else field set depth

/-- Selections in braces, at least one. -/
def selectionSet : Nat → Parser (Span × List Selection)
  | 0 => Parser.fail [Punct.braceOpen.text]
  | depth + 1 => braced (selection (selectionSet depth) depth)

/-- A variable with its type and its default. -/
def variableDef (depth : Nat) : Parser VariableDef := do
  Parser.punct .dollar
  let name ← Parser.name
  Parser.punct .colon
  let type ← TypeExpr.parser depth
  if ← Parser.acceptPunct .equals then
    return ⟨name, type, some (← Value.parser true depth)⟩
  else
    return ⟨name, type, none⟩

/-- An operation, after its keyword. -/
def operation (position : Position) (kind : OperationKind) (depth : Nat) : Parser Operation := do
  let name ← Parser.name?
  let variableDefs ← Parser.enclosed? .parenOpen .parenClose
    (fun depth ↦ Parser.someBefore none .parenClose (variableDef depth)) depth
  let directives ← directives false depth
  let (span, selections) ← selectionSet depth
  return ⟨some ⟨position, kind, name, variableDefs.getD [], directives⟩, span, selections⟩

/-- A fragment definition, after its keyword. -/
def fragment (position : Position) (depth : Nat) : Parser Fragment := do
  let name ← Parser.name
  Parser.word "on"
  let condition ← Parser.name
  let directives ← directives false depth
  let (span, selections) ← selectionSet depth
  return ⟨position, name, condition, directives, span, selections⟩

/-- The words that a definition may begin with. -/
inductive Keyword where
  | operation (kind : OperationKind)
  | fragment

/-- The keyword that a token is. -/
def Keyword.ofLexeme? : Lexeme → Option Keyword
  | .name "query" => some (.operation .query)
  | .name "mutation" => some (.operation .mutation)
  | .name "subscription" => some (.operation .subscription)
  | .name "fragment" => some .fragment
  | _ => none

/-- An operation or a fragment definition. -/
def definition (depth : Nat) : Parser Definition := do
  let position ← Parser.position
  if (← Parser.peek) = some (.punct .braceOpen) then
    let (span, selections) ← selectionSet depth
    return .operation ⟨none, span, selections⟩
  match ← Parser.take ["a definition"] Keyword.ofLexeme? with
  | .operation kind => .operation <$> operation position kind depth
  | .fragment => .fragment <$> fragment position depth

/-- The document that a text is, or why it is none. -/
def parse (text : String) : Except ParseFault Document :=
  Document.mk <$> (Parser.document (definition nestingLimit)).parse text

/-- The document that a text is, if it is one. -/
def parse? (text : String) : Option Document := (parse text).toOption

end Document

end GraphQLCheck
