import GraphQLCheck.Rule

/-!
# A rule that shows the walk

`trace` reports every event of a walk with all that a rule can see then: the enclosing type and how
deep it lies, the number of diagnostics so far, the number of fragments and the root type of
queries.
-/

namespace GraphQLCheck

/-- A node in one word, and where it is. -/
def Node.label : Node → String × List Position
  | .document _ => ("document", [])
  | .operation op =>
    match op.head? with
    | none => ("set", [op.span.start])
    | some head => (head.kind.keyword ++ ":" ++ head.name?.getD "", [head.position])
  | .fragment f => ("fragment:" ++ f.name, [f.position])
  | .selections span items =>
    ("selections:" ++ toString items.length, [span.start, span.stop])
  | .field head _ _ => ("field:" ++ head.name, [head.position])
  | .inline head _ _ =>
    (match head.condition? with
      | some condition => "inline:" ++ condition
      | none => "inline", [head.position])
  | .spread s => ("spread:" ++ s.name, [s.position])

/-- The word for a phase. -/
def Phase.word : Phase → String
  | .enter => "enter"
  | .leave => "leave"

/-- What can be seen in a scene, in one line. -/
def Scene.summary (scene : Scene) : String :=
  "@" ++ (scene.current.map NamedType.name).getD "?" ++
    " depth=" ++ toString scene.tracker.depth ++
    " seen=" ++ toString scene.reported.size ++
    " frags=" ++ toString scene.fragments.size ++
    " root=" ++ scene.schema.query.name

/-- Reports every event, under the given number. -/
def trace (index : Nat) : Rule where
  name := "Trace"
  report event scene :=
    let (label, positions) := event.node.label
    [⟨"#" ++ toString index ++ " " ++ event.phase.word ++ " " ++ label ++ " " ++ scene.summary,
      positions⟩]

end GraphQLCheck
