import GraphQLCheck.Proofs.Validation.FieldSites

/-!
# What validation depends on

Most of what a document says plays no part in validation with the default rules. What does is its
**skeleton** (`Document.skeleton`): the kinds of the operations, the conditions of the fragments,
and in the trees of selections the names and positions of the fields, the conditions of the inline
fragments, and where the spreads stand. Aliases, arguments, directives and variables are gone, and
so are the names of operations, fragments and spreads, and whether a query begins with its keyword.

What is reported can be read off the skeleton (`Document.Skeleton.diagnostics`), and validation
reports exactly that, whatever fragments the spreads refer to
(`validateWith_eq_diagnostics_skeleton`). A spread does change the enclosing type while it is
visited, but no field is visited before that is undone. So documents with one skeleton are reported
on in one way (`validateWith_of_skeleton_eq`).
-/

namespace GraphQLCheck

/-- What counts of a selection. -/
inductive Skeleton where
  /-- A field at a position, with what is below it. -/
  | field (position : Position) (name : String) (below : List Skeleton)
  /-- An inline fragment with a condition or without, and what is below it. -/
  | inline (condition? : Option String) (below : List Skeleton)
  /-- A spread of some fragment. -/
  | spread

mutual

/-- What counts of a selection. -/
def Selection.skeleton : Selection → Skeleton
  | .field head _ selections => .field head.position head.name (skeletonsOfAll selections)
  | .inline head _ selections => .inline head.condition? (skeletonsOfAll selections)
  | .spread _ => .spread

/-- What counts of some selections. -/
def skeletonsOfAll : List Selection → List Skeleton
  | [] => []
  | selection :: selections => selection.skeleton :: skeletonsOfAll selections

end

/-- What counts of a definition. -/
inductive Definition.Skeleton where
  /-- An operation of a kind. -/
  | operation (kind : OperationKind) (selections : List GraphQLCheck.Skeleton)
  /-- A fragment on a type. -/
  | fragment (condition : String) (selections : List GraphQLCheck.Skeleton)

/-- What counts of a definition. -/
def Definition.skeleton : Definition → Definition.Skeleton
  | .operation op => .operation op.kind (skeletonsOfAll op.selections)
  | .fragment f => .fragment f.condition (skeletonsOfAll f.selections)

/-- What counts of a document. -/
structure Document.Skeleton where
  /-- What counts of its definitions, in the order of the text. -/
  definitions : List Definition.Skeleton

/-- What counts of a document. -/
def Document.skeleton (document : Document) : Document.Skeleton :=
  ⟨document.definitions.map Definition.skeleton⟩

/-! ### What is reported about a skeleton -/

section Diagnostics

variable (s : Schema)

/-- The diagnostic about a field with the given name and position, given the type around it. -/
def fieldDiagnostic? (context : Context) (position : Position) (name : String) :
    Option Diagnostic :=
  context.bind fun t ↦ (checkField s t name).map fun error ↦ ⟨error.message, [position]⟩

mutual

/-- What is reported about a selection, where the type around it is given. -/
def Skeleton.diagnostics (context : Context) : Skeleton → List Diagnostic
  | .field position name below =>
    (fieldDiagnostic? s context position name).toList ++
      diagnosticsOfAll (s.fieldContext context name) below
  | .inline condition? below => diagnosticsOfAll (s.inlineContext context condition?) below
  | .spread => []

/-- What is reported about some selections, where the type around them is given. -/
def diagnosticsOfAll (context : Context) : List Skeleton → List Diagnostic
  | [] => []
  | skeleton :: skeletons => skeleton.diagnostics context ++ diagnosticsOfAll context skeletons

end

/-- What is reported about a definition. -/
def Definition.Skeleton.diagnostics : Definition.Skeleton → List Diagnostic
  | .operation kind selections => diagnosticsOfAll s (s.rootType? kind) selections
  | .fragment condition selections => diagnosticsOfAll s (s.type? condition) selections

/-- What is reported about a document. -/
def Document.Skeleton.diagnostics (skeleton : Document.Skeleton) : List Diagnostic :=
  skeleton.definitions.flatMap (Definition.Skeleton.diagnostics s)

/-! ### The skeleton decides -/

mutual

/-- What the sites of a selection give is what is reported about its skeleton. By recursion on the
tree. -/
theorem filterMap_sites_eq_diagnostics : ∀ (context : Context) (selection : Selection),
    (selection.sites s context).filterMap (FieldSite.diagnostic? s) =
      selection.skeleton.diagnostics s context
  | context, .field head span selections => by
    rw [Selection.sites, Selection.skeleton, Skeleton.diagnostics,
      List.filterMap_eq_flatMap_toList, List.flatMap_cons, ← List.filterMap_eq_flatMap_toList,
      filterMap_sitesOfAll_eq_diagnosticsOfAll]
    rfl
  | context, .inline head span selections => by
    rw [Selection.sites, Selection.skeleton, Skeleton.diagnostics]
    cases head.condition? <;> exact filterMap_sitesOfAll_eq_diagnosticsOfAll _ selections
  | context, .spread spread => by
    rw [Selection.sites, Selection.skeleton, Skeleton.diagnostics, List.filterMap_nil]

theorem filterMap_sitesOfAll_eq_diagnosticsOfAll :
    ∀ (context : Context) (selections : List Selection),
      (sitesOfAll s context selections).filterMap (FieldSite.diagnostic? s) =
        diagnosticsOfAll s context (skeletonsOfAll selections)
  | context, [] => by
    rw [sitesOfAll, skeletonsOfAll, diagnosticsOfAll, List.filterMap_nil]
  | context, selection :: selections => by
    rw [sitesOfAll, skeletonsOfAll, diagnosticsOfAll, List.filterMap_append,
      filterMap_sites_eq_diagnostics context selection,
      filterMap_sitesOfAll_eq_diagnosticsOfAll context selections]

end

theorem Definition.filterMap_sites_eq_diagnostics (definition : Definition) :
    (definition.sites s).filterMap (FieldSite.diagnostic? s) =
      definition.skeleton.diagnostics s := by
  cases definition with
  | operation op => exact filterMap_sitesOfAll_eq_diagnosticsOfAll s _ op.selections
  | fragment f => exact filterMap_sitesOfAll_eq_diagnosticsOfAll s _ f.selections

end Diagnostics

/-- Validation with the default rules reports what its skeleton says, whatever fragments the spreads
refer to. -/
theorem validateWith_eq_diagnostics_skeleton {s : Schema} (h : s.Built) (fragments : Fragments)
    (document : Document) :
    validateWith defaultRules s fragments document = document.skeleton.diagnostics s := by
  rw [validateWith_defaultRules h, Document.sites, List.filterMap_flatMap,
    Document.Skeleton.diagnostics, Document.skeleton, List.flatMap_map]
  exact List.flatMap_congr fun definition _ ↦ definition.filterMap_sites_eq_diagnostics s

/-- **The skeleton decides.** For a built schema, documents with one skeleton have the same
diagnostics in the same order with the default rules, whatever fragments the spreads of either refer
to. In particular it does not matter whether they refer to those of the document. -/
theorem validateWith_of_skeleton_eq {s : Schema} (h : s.Built) {document document' : Document}
    (hskeleton : document.skeleton = document'.skeleton) (fragments fragments' : Fragments) :
    validateWith defaultRules s fragments document =
      validateWith defaultRules s fragments' document' ∧
    validate defaultRules s document = validateWith defaultRules s fragments document := by
  constructor
  · rw [validateWith_eq_diagnostics_skeleton h, hskeleton, validateWith_eq_diagnostics_skeleton h]
  · rw [validate, validateWith_eq_diagnostics_skeleton h, validateWith_eq_diagnostics_skeleton h]

/-- `nodeDocument` with aliases, arguments, directives and variables, and with names for what has
none there and other names for the rest. -/
def dressedNodeDocument : Document :=
  let below : Span := ⟨⟨2, 40⟩, ⟨7, 50⟩⟩
  let since : Directive := ⟨"since", [("version", .int 2)]⟩
  let field (position : Position) (name : String) (selections : List Selection) : Selection :=
    .field ⟨position, some "node", name, [("id", .variable "id")], [since]⟩ below selections
  ⟨[.operation ⟨some ⟨⟨1, 1⟩, .query, some "Nodes", [⟨"id", .named "ID", some .null⟩], [since]⟩,
      ⟨⟨1, 20⟩, ⟨8, 1⟩⟩,
      [field ⟨2, 3⟩ "node"
        [field ⟨3, 5⟩ "name" [],
          .inline ⟨⟨4, 8⟩, none, [since]⟩ below [.inline ⟨⟨4, 14⟩, some "User", []⟩ below
            [field ⟨4, 25⟩ "nmae" []]],
          .spread ⟨⟨5, 9⟩, "Other", [since]⟩,
          field ⟨6, 5⟩ "owner" [field ⟨6, 13⟩ "owner" []]]]⟩,
    .fragment ⟨⟨9, 2⟩, "Another", "Ghost", [since], below, [field ⟨9, 23⟩ "name" []]⟩]⟩

/-- Fragments that refer to each other in a circle, under the names of the spreads in both
documents. -/
def circularFragments : Fragments :=
  .ofDocument ⟨[.fragment ⟨⟨1, 1⟩, "F", "User", [], default, [.spread ⟨⟨1, 20⟩, "Other", []⟩]⟩,
    .fragment ⟨⟨2, 1⟩, "Other", "Node", [], default, [.spread ⟨⟨2, 24⟩, "F", []⟩]⟩]⟩

theorem validateWith_dressedNodeDocument : ∃ s : Schema, s.Built ∧
    dressedNodeDocument.skeleton = nodeDocument.skeleton ∧
    validateWith defaultRules s circularFragments dressedNodeDocument =
      validateWith defaultRules s .empty nodeDocument ∧
    validate defaultRules s dressedNodeDocument =
      validateWith defaultRules s circularFragments dressedNodeDocument ∧
    (validate defaultRules s dressedNodeDocument).map Diagnostic.positions =
      [[⟨3, 5⟩], [⟨4, 25⟩], [⟨6, 5⟩]] := by
  have h : ∃ s : Schema, ∃ d : Draft, Draft.empty.load none nodeDeclarations = .ok d ∧
      d.build = .ok s ∧ (validate defaultRules s dressedNodeDocument).map Diagnostic.positions =
        [[⟨3, 5⟩], [⟨4, 25⟩], [⟨6, 5⟩]] := ⟨_, _, rfl, rfl, by decide +kernel⟩
  obtain ⟨s, d, hd, hs, hpositions⟩ := h
  have hbuilt : s.Built := ⟨d, .load none nodeDeclarations .empty hd, hs⟩
  have hskeleton : dressedNodeDocument.skeleton = nodeDocument.skeleton := rfl
  obtain ⟨hsame, hown⟩ := validateWith_of_skeleton_eq hbuilt hskeleton circularFragments .empty
  exact ⟨s, hbuilt, hskeleton, hsame, hown, hpositions⟩

end GraphQLCheck
