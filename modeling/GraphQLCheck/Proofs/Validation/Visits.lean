import GraphQLCheck.Validation

/-!
# The visits of a walk

The walk through a document keeps the enclosing types on a stack that it pushes and pops. What it
amounts to is a list that a plain recursion over the document writes down (`Document.visits`): every
node is entered, what is below it follows in order, and it is left, all with the enclosing types
given to the recursion from above. A field is visited among the selections it stands in, every other
node in the context of the selections below it; a field without selections has nothing below it, and
spreads are not followed.

The walk asks all rules at each visit of that list and does nothing else
(`walkDocument_eq_after`). In particular it leaves the stack as it was. For rules that do not look
at what has been reported so far, the result is the concatenation of what they report at the visits
(`validateWith_eq_flatMap`).
-/

namespace GraphQLCheck

/-- An event, and the enclosing types in which it happens. -/
structure Visit where
  /-- What happens. -/
  event : Event
  /-- The enclosing types. -/
  tracker : Tracker

/-- A node is entered, other visits follow, and it is left with the same enclosing types. -/
def visitAround (node : Node) (tracker : Tracker) (between : List Visit) : List Visit :=
  ⟨⟨.enter, node⟩, tracker⟩ :: (between ++ [⟨⟨.leave, node⟩, tracker⟩])

section Document

variable (s : Schema) (fragments : Fragments)

mutual

/-- The visits of a selection that stands inside of the given types. -/
def Selection.visits (outside : Tracker) : Selection → List Visit
  | .field head span selections =>
    let inside := outside.push (s.fieldContext outside.current head.name)
    visitAround (.field head span selections) outside <|
      if selections.isEmpty then []
      else visitAround (.selections span selections) inside (visitsOfAll inside selections)
  | .inline head span selections =>
    let inside := outside.push (s.inlineContext outside.current head.condition?)
    visitAround (.inline head span selections) inside <|
      visitAround (.selections span selections) inside (visitsOfAll inside selections)
  | .spread spread =>
    visitAround (.spread spread) (outside.push (s.spreadContext fragments spread.name)) []

/-- The visits of selections in order. -/
def visitsOfAll (outside : Tracker) : List Selection → List Visit
  | [] => []
  | selection :: selections =>
    selection.visits outside ++ visitsOfAll outside selections

end

/-- The visits of the selections between two braces. -/
def visitsOfSet (inside : Tracker) (span : Span) (selections : List Selection) : List Visit :=
  visitAround (.selections span selections) inside (visitsOfAll s fragments inside selections)

/-- The visits of a definition that stands inside of the given types. -/
def Definition.visits (outside : Tracker) : Definition → List Visit
  | .operation op =>
    let inside := outside.push (s.operationContext op.kind)
    visitAround (.operation op) inside (visitsOfSet s fragments inside op.span op.selections)
  | .fragment f =>
    let inside := outside.push (s.conditionContext f.condition)
    visitAround (.fragment f) inside (visitsOfSet s fragments inside f.span f.selections)

/-- The visits of a document, which stands inside of nothing. -/
def Document.visits (document : Document) : List Visit :=
  visitAround (.document document) .empty <|
    document.definitions.flatMap (Definition.visits s fragments .empty)

end Document

/-! ### The walk asks the rules at the visits -/

/-- What has been reported when all rules have been asked at a visit, in order. -/
def Visit.hear (rules : List Rule) (s : Schema) (fragments : Fragments)
    (reported : Array Diagnostic) (visit : Visit) : Array Diagnostic :=
  rules.foldl (fun (reported : Array Diagnostic) (rule : Rule) ↦
    reported ++ rule.report visit.event ⟨s, fragments, visit.tracker, reported⟩) reported

namespace Scene

variable {rules : List Rule}

/-- The scene after all rules have been asked at some visits. -/
def after (rules : List Rule) (scene : Scene) (visits : List Visit) : Scene :=
  { scene with
    reported := visits.foldl (Visit.hear rules scene.schema scene.fragments) scene.reported }

theorem after_append (scene : Scene) (visits visits' : List Visit) :
    scene.after rules (visits ++ visits') = (scene.after rules visits).after rules visits' := by
  rw [after, List.foldl_append]
  rfl

/-- Asking the rules at an event changes nothing but what has been reported. -/
theorem announce_eq_after (scene : Scene) (event : Event) :
    scene.announce rules event = scene.after rules [⟨event, scene.tracker⟩] := by
  induction rules generalizing scene with
  | nil => rfl
  | cons rule rules ih =>
    rw [announce, List.foldl_cons]
    exact ih (ask event scene rule)

/-- Going around a body that makes some visits makes those of the node around them. -/
theorem around_eq_after {node : Node} {body : Scene → Scene} {scene : Scene}
    {between : List Visit}
    (h : body (scene.after rules [⟨⟨.enter, node⟩, scene.tracker⟩]) =
      (scene.after rules [⟨⟨.enter, node⟩, scene.tracker⟩]).after rules between) :
    around rules node body scene = scene.after rules (visitAround node scene.tracker between) := by
  rw [around, announce_eq_after scene, h, announce_eq_after]
  show _ = scene.after rules ([_] ++ (between ++ [_]))
  rw [after_append, after_append]
  rfl

/-- Doing something inside of a context leaves the enclosing types as they were. -/
theorem inside_eq_after {enter : Scene → Tracker} {body : Scene → Scene} {scene : Scene}
    {context : Context} {visits : List Visit} (henter : enter scene = scene.tracker.push context)
    (hbody : body { scene with tracker := scene.tracker.push context } =
      after rules { scene with tracker := scene.tracker.push context } visits) :
    inside enter body scene = scene.after rules visits := by
  rw [inside, henter]
  simp only [hbody]
  rfl

end Scene

/-! One case for each kind of selection, by recursion on the tree. The scene is arbitrary in each,
since the selections of a list are walked from the scenes that those before them leave. -/

mutual

theorem walkSelection_eq_after (rules : List Rule) :
    ∀ (selection : Selection) (scene : Scene), walkSelection rules selection scene =
      scene.after rules (selection.visits scene.schema scene.fragments scene.tracker)
  | .field head span selections, scene => by
    rw [walkSelection, Selection.visits]
    refine Scene.around_eq_after (Scene.inside_eq_after rfl ?_)
    split
    · rfl
    · exact Scene.around_eq_after (walkSelections_eq_after rules selections _)
  | .inline head span selections, scene => by
    rw [walkSelection, Selection.visits]
    refine Scene.inside_eq_after rfl (Scene.around_eq_after ?_)
    exact Scene.around_eq_after (walkSelections_eq_after rules selections _)
  | .spread spread, scene => by
    rw [walkSelection, Selection.visits]
    exact Scene.inside_eq_after rfl (Scene.around_eq_after rfl)

theorem walkSelections_eq_after (rules : List Rule) :
    ∀ (selections : List Selection) (scene : Scene), walkSelections rules selections scene =
      scene.after rules (visitsOfAll scene.schema scene.fragments scene.tracker selections)
  | [], scene => by
    rw [walkSelections, visitsOfAll]
    rfl
  | selection :: selections, scene => by
    rw [walkSelections, visitsOfAll, Scene.after_append]
    show walkSelections rules selections (walkSelection rules selection scene) = _
    rw [walkSelection_eq_after rules selection]
    exact walkSelections_eq_after rules selections _

end

theorem walkSet_eq_after (rules : List Rule) (span : Span) (selections : List Selection)
    (scene : Scene) : walkSet rules span selections scene =
      scene.after rules
        (visitsOfSet scene.schema scene.fragments scene.tracker span selections) :=
  Scene.around_eq_after (walkSelections_eq_after rules selections _)

theorem walkDefinition_eq_after (rules : List Rule) (definition : Definition) (scene : Scene) :
    walkDefinition rules definition scene =
      scene.after rules (definition.visits scene.schema scene.fragments scene.tracker) := by
  cases definition with
  | operation op =>
    rw [walkDefinition, Definition.visits]
    refine Scene.inside_eq_after rfl (Scene.around_eq_after ?_)
    exact walkSet_eq_after rules op.span op.selections _
  | fragment f =>
    rw [walkDefinition, Definition.visits]
    refine Scene.inside_eq_after rfl (Scene.around_eq_after ?_)
    exact walkSet_eq_after rules f.span f.selections _

/-- Definition after definition, each from the scene that those before it leave. -/
theorem foldl_walkDefinition_eq_after (rules : List Rule) (definitions : List Definition)
    (scene : Scene) : definitions.foldl (fun scene d ↦ walkDefinition rules d scene) scene =
      scene.after rules (definitions.flatMap
        (Definition.visits scene.schema scene.fragments scene.tracker)) := by
  induction definitions generalizing scene with
  | nil => rfl
  | cons definition definitions ih =>
    rw [List.foldl_cons, List.flatMap_cons, Scene.after_append, walkDefinition_eq_after, ih]
    rfl

/-- **The walk is its visits.** -/
theorem walkDocument_eq_after (rules : List Rule) (s : Schema) (fragments : Fragments)
    (document : Document) : walkDocument rules document (.start s fragments) =
      (Scene.start s fragments).after rules (document.visits s fragments) :=
  Scene.around_eq_after (foldl_walkDefinition_eq_after rules document.definitions _)

theorem validateWith_eq_foldl (rules : List Rule) (s : Schema) (fragments : Fragments)
    (document : Document) : validateWith rules s fragments document =
      ((document.visits s fragments).foldl (Visit.hear rules s fragments) #[]).toList := by
  rw [validateWith, walkDocument_eq_after]
  rfl

/-! ### Rules that do not look at what has been reported -/

/-- The rule reports the same whatever has been reported before. -/
def Rule.Unswayed (rule : Rule) : Prop :=
  ∀ (event : Event) (scene : Scene) (reported : Array Diagnostic),
    rule.report event { scene with reported := reported } = rule.report event scene

/-- What a rule reports at a visit when nothing has been reported before. -/
def Visit.reportOf (s : Schema) (fragments : Fragments) (visit : Visit) (rule : Rule) :
    List Diagnostic :=
  rule.report visit.event ⟨s, fragments, visit.tracker, #[]⟩

theorem Visit.toList_hear {rules : List Rule} (h : ∀ rule ∈ rules, rule.Unswayed) (s : Schema)
    (fragments : Fragments) (reported : Array Diagnostic) (visit : Visit) :
    (visit.hear rules s fragments reported).toList =
      reported.toList ++ rules.flatMap (visit.reportOf s fragments) := by
  induction rules generalizing reported with
  | nil => exact (List.append_nil _).symm
  | cons rule rules ih =>
    have hrule : rule.report visit.event ⟨s, fragments, visit.tracker, reported⟩ =
        visit.reportOf s fragments rule :=
      h rule List.mem_cons_self visit.event ⟨s, fragments, visit.tracker, #[]⟩ reported
    have hrest := ih (fun r hr ↦ h r (List.mem_cons_of_mem rule hr))
      (reported ++ visit.reportOf s fragments rule)
    rw [hear, List.foldl_cons, List.flatMap_cons, hrule, ← List.append_assoc]
    rw [Array.toList_appendList] at hrest
    exact hrest

/-- Rules that do not look at what has been reported add at some visits what they report there when
nothing has been reported. -/
theorem Visit.toList_foldl_hear {rules : List Rule} (h : ∀ rule ∈ rules, rule.Unswayed) (s : Schema)
    (fragments : Fragments) (visits : List Visit) (reported : Array Diagnostic) :
    (visits.foldl (Visit.hear rules s fragments) reported).toList =
      reported.toList ++ visits.flatMap fun visit ↦ rules.flatMap (visit.reportOf s fragments) := by
  induction visits generalizing reported with
  | nil => exact (List.append_nil _).symm
  | cons visit visits ih =>
    rw [List.foldl_cons, ih, Visit.toList_hear h, List.flatMap_cons, List.append_assoc]

/-- Rules that do not look at what has been reported each report what they would report alone, visit
by visit and at each visit in order. -/
theorem validateWith_eq_flatMap {rules : List Rule} (h : ∀ rule ∈ rules, rule.Unswayed)
    (s : Schema) (fragments : Fragments) (document : Document) :
    validateWith rules s fragments document =
      (document.visits s fragments).flatMap fun visit ↦
        rules.flatMap (visit.reportOf s fragments) := by
  rw [validateWith_eq_foldl, Visit.toList_foldl_hear h, List.nil_append]

end GraphQLCheck
