import GraphQLCheck.Diagnostic
import GraphQLCheck.Tracker

/-!
# Validation rules

A rule is asked at every event of a walk through a document, that is whenever a node of the document
is entered or left, and answers with what it has to report. What it can see then is a `Scene`: the
schema, the fragments, the enclosing types, and what has been reported so far by any rule.
-/

namespace GraphQLCheck

/-- A node of a document. -/
inductive Node where
  | document (document : Document)
  | operation (operation : Operation)
  | fragment (fragment : Fragment)
  | selections (span : Span) (selections : List Selection)
  | field (head : FieldHead) (span : Span) (selections : List Selection)
  | inline (head : InlineHead) (span : Span) (selections : List Selection)
  | spread (spread : Spread)

/-- Whether a node is entered or left. -/
inductive Phase where
  | enter
  | leave
  deriving DecidableEq, Repr

/-- Something that happens in a walk. -/
structure Event where
  /-- Whether the node is entered or left. -/
  phase : Phase
  /-- The node. -/
  node : Node

/-- What a rule can see. -/
structure Scene where
  /-- The schema that the document is checked against. -/
  schema : Schema
  /-- The fragments that spreads refer to. -/
  fragments : Fragments
  /-- The enclosing types. -/
  tracker : Tracker
  /-- What has been reported so far. -/
  reported : Array Diagnostic

/-- The type that the selections around the walk are made from, if it is known. -/
def Scene.current (scene : Scene) : Context := scene.tracker.current

/-- A rule of validation. -/
structure Rule where
  /-- The name of the rule. -/
  name : String
  /-- What the rule reports at an event. -/
  report : Event → Scene → List Diagnostic

end GraphQLCheck
