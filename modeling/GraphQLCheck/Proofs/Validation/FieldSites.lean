import GraphQLCheck.Proofs.Schema.Built
import GraphQLCheck.Proofs.Validation.Visits
import Mathlib.Data.List.Basic

/-!
# What validation reports, without a walk

The reference for validation with the default rules. A plain recursion lists the fields of a
document in the order of the text, each with the type it is selected from (`Document.sites`): the
type travels down as an argument, and there is nothing to push or pop. An operation starts at its
root type and a fragment at its condition, an inline fragment moves to its condition if it has one,
and a field moves to what it gives back. Every site gives at most one diagnostic
(`FieldSite.diagnostic?`), and validation reports exactly those, in that order
(`validate_eq_filterMap_sites`).

The root type of an operation is looked up twice on the way, once as an object and once by its own
name. In a built schema both look-ups agree (`operationContext_of_built`).
-/

namespace GraphQLCheck

/-- A field of a document, and the type that it is selected from if that is known. -/
structure FieldSite where
  /-- The field. -/
  head : FieldHead
  /-- The type around it. -/
  context : Context

/-- The diagnostic about a field: the error of selecting it from the type around it, at the position
of the field. There is none where that type is unknown. -/
def FieldSite.diagnostic? (s : Schema) (site : FieldSite) : Option Diagnostic :=
  site.context.bind fun t ↦
    (checkField s t site.head.name).map fun error ↦ ⟨error.message, [site.head.position]⟩

section Sites

variable (s : Schema)

mutual

/-- The fields of a selection, where the type around it is given. -/
def Selection.sites (context : Context) : Selection → List FieldSite
  | .field head _ selections =>
    ⟨head, context⟩ :: sitesOfAll (s.fieldContext context head.name) selections
  | .inline head _ selections =>
    match head.condition? with
    | some condition => sitesOfAll (s.type? condition) selections
    | none => sitesOfAll context selections
  | .spread _ => []

/-- The fields of some selections, where the type around them is given. -/
def sitesOfAll (context : Context) : List Selection → List FieldSite
  | [] => []
  | selection :: selections => selection.sites context ++ sitesOfAll context selections

end

/-- The fields of a definition. -/
def Definition.sites : Definition → List FieldSite
  | .operation op => sitesOfAll s (s.rootType? op.kind) op.selections
  | .fragment f => sitesOfAll s (s.type? f.condition) f.selections

/-- The fields of a document, in the order of the text. -/
def Document.sites (document : Document) : List FieldSite :=
  document.definitions.flatMap (Definition.sites s)

end Sites

/-! ### What the rule reports at the visits -/

theorem fieldSelection_unswayed : fieldSelection.Unswayed := fun _ _ _ ↦ rfl

theorem flatMap_visitAround {α : Type} (f : Visit → List α) (node : Node) (tracker : Tracker)
    (between : List Visit) : (visitAround node tracker between).flatMap f =
      f ⟨⟨.enter, node⟩, tracker⟩ ++ (between.flatMap f ++ f ⟨⟨.leave, node⟩, tracker⟩) := by
  rw [visitAround, List.flatMap_cons, List.flatMap_append, List.flatMap_singleton]

section Reports

variable (s : Schema) (fragments : Fragments)

/-- What the rule about fields reports at some visits. -/
def fieldReports (visits : List Visit) : List Diagnostic :=
  visits.flatMap fun visit ↦ visit.reportOf s fragments fieldSelection

/-- The rule has something to say at most when a field is entered. -/
theorem fieldReports_visitAround_field (head : FieldHead) (span : Span)
    (selections : List Selection) (tracker : Tracker) (between : List Visit) :
    fieldReports s fragments (visitAround (.field head span selections) tracker between) =
      (FieldSite.diagnostic? s ⟨head, tracker.current⟩).toList ++
        fieldReports s fragments between := by
  have henter : Visit.reportOf s fragments ⟨⟨.enter, .field head span selections⟩, tracker⟩
      fieldSelection = (FieldSite.diagnostic? s ⟨head, tracker.current⟩).toList := by
    simp only [Visit.reportOf, fieldSelection, FieldSite.diagnostic?, Scene.current]
    rcases tracker.current with - | t
    · rfl
    · rcases h : checkField s t head.name with - | error <;> simp [h]
  rw [fieldReports, flatMap_visitAround, henter]
  exact congrArg _ (List.append_nil _)

/-- At nodes that are not fields the rule has nothing to say. -/
theorem fieldReports_visitAround {node : Node} {tracker : Tracker} {between : List Visit}
    (henter : Visit.reportOf s fragments ⟨⟨.enter, node⟩, tracker⟩ fieldSelection = []) :
    fieldReports s fragments (visitAround node tracker between) =
      fieldReports s fragments between := by
  rw [fieldReports, flatMap_visitAround, henter, List.nil_append]
  exact List.append_nil _

mutual

/-- What is reported at the visits of a selection is what its sites give, with the innermost of the
enclosing types around it. By recursion on the tree. -/
theorem fieldReports_visits : ∀ (outside : Tracker) (selection : Selection),
    fieldReports s fragments (selection.visits s fragments outside) =
      (selection.sites s outside.current).filterMap (FieldSite.diagnostic? s)
  | outside, .field head span selections => by
    have hbelow := fieldReports_visitsOfAll
      (outside.push (s.fieldContext outside.current head.name)) selections
    rw [Tracker.current_push] at hbelow
    rw [Selection.visits, Selection.sites, fieldReports_visitAround_field,
      List.filterMap_eq_flatMap_toList, List.flatMap_cons, ← List.filterMap_eq_flatMap_toList,
      ← hbelow]
    congr 1
    split
    · rename_i hempty
      rw [List.isEmpty_iff.1 hempty]
      rfl
    · exact fieldReports_visitAround s fragments rfl
  | outside, .inline head span selections => by
    have hbelow := fieldReports_visitsOfAll
      (outside.push (s.inlineContext outside.current head.condition?)) selections
    rw [Tracker.current_push] at hbelow
    rw [Selection.visits, Selection.sites, fieldReports_visitAround s fragments rfl,
      fieldReports_visitAround s fragments rfl, hbelow]
    cases head.condition? <;> rfl
  | outside, .spread spread => by
    rw [Selection.visits, Selection.sites]
    rfl

theorem fieldReports_visitsOfAll : ∀ (outside : Tracker) (selections : List Selection),
    fieldReports s fragments (visitsOfAll s fragments outside selections) =
      (sitesOfAll s outside.current selections).filterMap (FieldSite.diagnostic? s)
  | outside, [] => by
    rw [visitsOfAll, sitesOfAll]
    rfl
  | outside, selection :: selections => by
    rw [visitsOfAll, sitesOfAll, List.filterMap_append, ← fieldReports_visits outside selection,
      ← fieldReports_visitsOfAll outside selections]
    exact List.flatMap_append

end

end Reports

/-! ### Validation with the default rules -/

/-- The root type of an operation is found under its own name, so looking that name up again changes
nothing. -/
theorem operationContext_of_built {s : Schema} (h : s.Built) (kind : OperationKind) :
    s.operationContext kind = s.rootType? kind := by
  rw [Schema.operationContext]
  rcases hroot : s.rootType? kind with - | t
  · rfl
  · obtain ⟨ref, -, hobject⟩ := Option.bind_eq_some_iff.1 hroot
    have htype : s.type? ref.name = some t := (Option.filter_eq_some_iff.1 hobject).1
    show s.type? t.name = some t
    rw [h.byName.names.name_of_get? htype, htype]

theorem fieldReports_definition {s : Schema} (h : s.Built) (fragments : Fragments)
    (outside : Tracker) (definition : Definition) :
    fieldReports s fragments (definition.visits s fragments outside) =
      (definition.sites s).filterMap (FieldSite.diagnostic? s) := by
  cases definition with
  | operation op =>
    rw [Definition.visits, Definition.sites, fieldReports_visitAround s fragments rfl, visitsOfSet,
      fieldReports_visitAround s fragments rfl, fieldReports_visitsOfAll, Tracker.current_push,
      operationContext_of_built h]
  | fragment f =>
    rw [Definition.visits, Definition.sites, fieldReports_visitAround s fragments rfl, visitsOfSet,
      fieldReports_visitAround s fragments rfl, fieldReports_visitsOfAll, Tracker.current_push]
    rfl

theorem fieldReports_document {s : Schema} (h : s.Built) (fragments : Fragments)
    (document : Document) : fieldReports s fragments (document.visits s fragments) =
      (document.sites s).filterMap (FieldSite.diagnostic? s) := by
  rw [Document.visits, fieldReports_visitAround s fragments rfl, Document.sites, fieldReports,
    List.flatMap_assoc, List.filterMap_flatMap]
  exact List.flatMap_congr fun definition _ ↦ fieldReports_definition h fragments .empty definition

/-- With the default rules, the fragments that spreads refer to do not matter. -/
theorem validateWith_defaultRules {s : Schema} (h : s.Built) (fragments : Fragments)
    (document : Document) : validateWith defaultRules s fragments document =
      (document.sites s).filterMap (FieldSite.diagnostic? s) := by
  have hunswayed : ∀ rule ∈ defaultRules, rule.Unswayed := by
    intro rule hrule
    rw [List.mem_singleton.1 hrule]
    exact fieldSelection_unswayed
  rw [validateWith_eq_flatMap hunswayed, ← fieldReports_document h]
  exact List.flatMap_congr fun visit _ ↦ List.flatMap_singleton _ _

/-- **Validation is its reference.** For a built schema, validating a document with the default
rules reports, for the fields of the document in the order of the text, what is wrong with selecting
them from the type around them. -/
theorem validate_eq_filterMap_sites {s : Schema} (h : s.Built) (document : Document) :
    validate defaultRules s document =
      (document.sites s).filterMap (FieldSite.diagnostic? s) :=
  validateWith_defaultRules h (.ofDocument document) document

/-- A schema with an interface and one object that implements it. -/
def nodeDeclarations : List Declaration :=
  [.type ⟨⟨1, 1⟩, none, "Query", .object []
      [⟨⟨2, 3⟩, none, "node",
        [⟨⟨2, 8⟩, none, "id", .nonNull (.named "ID"), none⟩], .named "Node"⟩]⟩,
    .type ⟨⟨4, 1⟩, none, "Node", .interface [] [⟨⟨5, 3⟩, none, "id", [], .named "ID"⟩]⟩,
    .type ⟨⟨7, 1⟩, none, "User", .object ["Node"]
      [⟨⟨8, 3⟩, none, "id", [], .named "ID"⟩, ⟨⟨9, 3⟩, none, "name", [], .named "String"⟩]⟩]

/-- A query below whose only field stand a field of the implementing type, a condition with a wrong
field inside of a fragment without a condition, a spread, and a wrong field with a field below it;
and a fragment on a type that does not exist. -/
def nodeDocument : Document :=
  let below : Span := ⟨⟨2, 8⟩, ⟨7, 3⟩⟩
  let field (position : Position) (name : String) (selections : List Selection) : Selection :=
    .field ⟨position, none, name, [], []⟩ below selections
  ⟨[.operation ⟨none, ⟨⟨1, 1⟩, ⟨8, 1⟩⟩,
      [field ⟨2, 3⟩ "node"
        [field ⟨3, 5⟩ "name" [],
          .inline ⟨⟨4, 9⟩, none, []⟩ below [.inline ⟨⟨4, 13⟩, some "User", []⟩ below
            [field ⟨4, 25⟩ "nmae" []]],
          .spread ⟨⟨5, 8⟩, "F", []⟩,
          field ⟨6, 5⟩ "owner" [field ⟨6, 13⟩ "owner" []]]]⟩,
    .fragment ⟨⟨9, 1⟩, "F", "Ghost", [], ⟨⟨9, 21⟩, ⟨9, 30⟩⟩, [field ⟨9, 23⟩ "name" []]⟩]⟩

theorem validate_nodeDocument : ∃ s : Schema, s.Built ∧
    validate defaultRules s nodeDocument =
      (nodeDocument.sites s).filterMap (FieldSite.diagnostic? s) ∧
    (validate defaultRules s nodeDocument).map Diagnostic.positions =
      [[⟨3, 5⟩], [⟨4, 25⟩], [⟨6, 5⟩]] := by
  have h : ∃ s : Schema, ∃ d : Draft, Draft.empty.load none nodeDeclarations = .ok d ∧
      d.build = .ok s ∧ (validate defaultRules s nodeDocument).map Diagnostic.positions =
        [[⟨3, 5⟩], [⟨4, 25⟩], [⟨6, 5⟩]] := ⟨_, _, rfl, rfl, by decide +kernel⟩
  obtain ⟨s, d, hd, hs, hpositions⟩ := h
  have hbuilt : s.Built := ⟨d, .load none nodeDeclarations .empty hd, hs⟩
  exact ⟨s, hbuilt, validate_eq_filterMap_sites hbuilt nodeDocument, hpositions⟩

end GraphQLCheck
