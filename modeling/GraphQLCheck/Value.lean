import GraphQLCheck.Grammar

/-!
# Literal values

The values that a GraphQL text can write down. An object keeps its fields sorted by name, and a
field that is written twice has its last value (`insertField`).
-/

namespace GraphQLCheck

/-- A literal value. -/
inductive Value where
  | variable (name : String)
  | int (value : Int)
  | float (value : Binary64)
  | string (text : String)
  | boolean (value : Bool)
  | null
  | enum (name : String)
  | list (items : List Value)
  | object (fields : List (String × Value))
  deriving Inhabited

namespace Value

/-- Whether a name comes before another one, by the codes of their characters. -/
def nameBefore (a b : String) : Bool := a.toList.lex b.toList fun c d ↦ c.toNat < d.toNat

/-- Adds a field in the place that its name has, or replaces the field of that name. -/
def insertField (name : String) (value : Value) : List (String × Value) → List (String × Value)
  | [] => [(name, value)]
  | (n, v) :: fields =>
    if name = n then (name, value) :: fields
    else if nameBefore name n then (name, value) :: (n, v) :: fields
    else (n, v) :: insertField name value fields

/-- The fields of an object from those that are written, in the order of their names. -/
def sortFields (written : List (String × Value)) : List (String × Value) :=
  written.foldl (fun fields (name, value) ↦ insertField name value fields) []

/-! ### Grammar -/

/-- The value that a name stands for. -/
def ofName (name : String) : Value :=
  if name = "true" then .boolean true
  else if name = "false" then .boolean false
  else if name = "null" then .null
  else .enum name

/-- The value that a single token stands for. -/
def ofLexeme? : Lexeme → Option Value
  | .name name => some (ofName name)
  | .int value => some (.int value)
  | .float value => some (.float value)
  | .string text => some (.string text)
  | .punct _ | .void _ => none

/-- A value that is a single token. -/
def tokenParser : Parser Value := do
  Parser.demandMeaning fun _ ↦ true
  Parser.take ["a value"] ofLexeme?

/-- A value without brackets; it may be a variable unless it has to be constant. -/
def simpleParser (constant : Bool) : Parser Value := do
  if constant then tokenParser
  else if ← Parser.acceptPunct .dollar then return .variable (← Parser.name)
  else tokenParser

/-- A value with at most the given number of brackets open at a time. -/
def parser (constant : Bool) : Nat → Parser Value
  | 0 => simpleParser constant
  | depth + 1 => do
    if ← Parser.acceptPunct .bracketOpen then
      let items ← Parser.manyBefore none .bracketClose (parser constant depth)
      Parser.punct .bracketClose
      return .list items
    else if ← Parser.acceptPunct .braceOpen then
      let fields ← Parser.manyBefore "an entry" .braceClose do
        let name ← Parser.name
        Parser.punct .colon
        return (name, ← parser constant depth)
      Parser.punct .braceClose
      return .object (sortFields fields)
    else simpleParser constant

end Value

end GraphQLCheck
