import GraphQLCheck.Rule.FieldSelection

/-!
# Validating a document

`validateWith` walks a document once and asks every rule at every event. A node is entered, what is
below it is walked in order, and it is left (`Scene.around`); at each of these events the rules are
asked in order, and each sees what those before it have reported (`Scene.announce`).

The enclosing type changes on the way (`Scene.inside`). A field is entered and left among the
selections it stands in; every other node is entered and left in the context of the selections below
it. Spreads are not followed.
-/

namespace GraphQLCheck

namespace Scene

/-- The scene before anything has happened. -/
def start (schema : Schema) (fragments : Fragments) : Scene := ⟨schema, fragments, .empty, #[]⟩

/-- Adds diagnostics to those reported so far. -/
def record (scene : Scene) (found : List Diagnostic) : Scene :=
  { scene with reported := scene.reported ++ found }

/-- Adds what a rule has to report at an event. -/
def ask (event : Event) (scene : Scene) (rule : Rule) : Scene :=
  scene.record (rule.report event scene)

/-- Asks all rules at an event, in order. -/
def announce (rules : List Rule) (event : Event) (scene : Scene) : Scene :=
  rules.foldl (ask event) scene

/-- Enters a node, does what is to be done there, and leaves it. -/
def around (rules : List Rule) (node : Node) (body : Scene → Scene) (scene : Scene) : Scene :=
  (body (scene.announce rules ⟨.enter, node⟩)).announce rules ⟨.leave, node⟩

/-- Does something inside of another context. -/
def inside (enter : Scene → Tracker) (body : Scene → Scene) (scene : Scene) : Scene :=
  let scene' := body { scene with tracker := enter scene }
  { scene' with tracker := scene'.tracker.leave }

end Scene

mutual

/-- Walks a selection and what is below it. -/
def walkSelection (rules : List Rule) : Selection → Scene → Scene
  | .field head span selections =>
    .around rules (.field head span selections) <|
      .inside (fun scene ↦ scene.tracker.enterField scene.schema head.name) <|
        if selections.isEmpty then id
        else .around rules (.selections span selections) (walkSelections rules selections)
  | .inline head span selections =>
    .inside (fun scene ↦ scene.tracker.enterInline scene.schema head.condition?) <|
      .around rules (.inline head span selections) <|
        .around rules (.selections span selections) (walkSelections rules selections)
  | .spread spread =>
    .inside (fun scene ↦ scene.tracker.enterSpread scene.schema scene.fragments spread.name) <|
      .around rules (.spread spread) id

/-- Walks selections in order. -/
def walkSelections (rules : List Rule) : List Selection → Scene → Scene
  | [] => id
  | selection :: selections => fun scene ↦
    walkSelections rules selections (walkSelection rules selection scene)

end

/-- Walks the selections between two braces. -/
def walkSet (rules : List Rule) (span : Span) (selections : List Selection) : Scene → Scene :=
  .around rules (.selections span selections) (walkSelections rules selections)

/-- Walks a definition. -/
def walkDefinition (rules : List Rule) : Definition → Scene → Scene
  | .operation op =>
    .inside (fun scene ↦ scene.tracker.enterOperation scene.schema op.kind) <|
      .around rules (.operation op) (walkSet rules op.span op.selections)
  | .fragment f =>
    .inside (fun scene ↦ scene.tracker.enterFragment scene.schema f.condition) <|
      .around rules (.fragment f) (walkSet rules f.span f.selections)

/-- Walks a document. -/
def walkDocument (rules : List Rule) (document : Document) : Scene → Scene :=
  .around rules (.document document) fun scene ↦
    document.definitions.foldl (fun scene d ↦ walkDefinition rules d scene) scene

/-- What the rules report about a document, where spreads refer to the given fragments. -/
def validateWith (rules : List Rule) (schema : Schema) (fragments : Fragments)
    (document : Document) : List Diagnostic :=
  (walkDocument rules document (.start schema fragments)).reported.toList

/-- What the rules report about a document, where spreads refer to its own fragments. -/
def validate (rules : List Rule) (schema : Schema) (document : Document) : List Diagnostic :=
  validateWith rules schema (.ofDocument document) document

end GraphQLCheck
