import GraphQLCheck.Source

/-!
# Diagnostics

What a validation rule reports: a message and the positions it is about. The text of a diagnostic
(`Diagnostic.text`) is its message, followed by its positions in parentheses when it has any.
-/

namespace GraphQLCheck

/-- A message about some positions of an operation document. -/
structure Diagnostic where
  /-- What is wrong. -/
  message : String
  /-- Where it is wrong. -/
  positions : List Position
  deriving DecidableEq, Repr, Inhabited

/-- The message, and the positions in parentheses if there are any. -/
def Diagnostic.text (d : Diagnostic) : String :=
  if d.positions.isEmpty then d.message
  else d.message ++ " (" ++ ", ".intercalate (d.positions.map Position.text) ++ ")"

end GraphQLCheck
