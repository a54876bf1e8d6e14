import GraphQLCheck.Grammar

/-!
# Type expressions

A type as it is written: a name, a list of a type, or a type marked as never null. The grammar puts
at most one mark on a type (`TypeExpr.Written`), and `TypeExpr.text` is the text that it is read
from.
-/

namespace GraphQLCheck

/-- A type as it is written. -/
inductive TypeExpr where
  /-- A type by its name. -/
  | named (name : String)
  /-- A list of values of a type. -/
  | list (inner : TypeExpr)
  /-- A type whose values are never null. -/
  | nonNull (inner : TypeExpr)
  deriving DecidableEq, Repr, Inhabited

namespace TypeExpr

/-- The GraphQL text of a type. -/
def text : TypeExpr → String
  | .named name => name
  | .list inner => "[" ++ inner.text ++ "]"
  | .nonNull inner => inner.text ++ "!"

/-- Whether a type is marked as never null on its outside. -/
def isMarked : TypeExpr → Bool
  | .nonNull _ => true
  | _ => false

/-- The types that a text can denote: no mark stands directly on a mark, and every name is a
GraphQL name. -/
def Written : TypeExpr → Prop
  | .named name => isName name = true
  | .list inner => inner.Written
  | .nonNull inner => inner.isMarked = false ∧ inner.Written

/-- The number of lists around the name. -/
def depth : TypeExpr → Nat
  | .named _ => 0
  | .list inner => inner.depth + 1
  | .nonNull inner => inner.depth

/-- A type, with the mark after it if there is one. -/
def marked (t : TypeExpr) : Parser TypeExpr := do
  if ← Parser.acceptPunct .bang then return .nonNull t else return t

/-- A type by its name, with or without a mark. -/
def nameParser : Parser TypeExpr := do
  marked (.named (← Parser.take ["a type"] Lexeme.name?))

/-- A type with at most the given number of brackets open at a time. -/
def parser : Nat → Parser TypeExpr
  | 0 => nameParser
  | depth + 1 => do
    if ← Parser.acceptPunct .bracketOpen then
      let inner ← parser depth
      Parser.punct .bracketClose
      marked (.list inner)
    else
      nameParser

/-- The type that a text denotes, with at most the given number of brackets open at a time. -/
def read? (limit : Nat) (text : String) : Option TypeExpr := (parser limit).parse? text

end TypeExpr

end GraphQLCheck
