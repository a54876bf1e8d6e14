import GraphQLCheck.Proofs.Validation.FieldContext
import GraphQLCheck.Proofs.Validation.FieldSites

/-!
# Silence below an unknown context

Below a field that is reported, and below one that stands in an unknown context, nothing is known
about the type of a selection. It stays unknown through fields and through inline fragments without
a condition. An inline fragment with a condition ends it: its selections are made from the type of
the condition, whatever is around them.

So what is reported below such a field is what is reported inside of the outermost conditions below
it, each taken for itself (`flagged_below`). Without a condition below it, nothing is reported; with
one, something can be (`flagged_below_ghostDocument`).

The fields of a document are listed here with what is below them (`Document.fieldNodes`), in the
order of the text, so that a field is directly followed by the fields below it
(`Document.preordered_fieldNodes`).
-/

namespace GraphQLCheck

/-- A field of a document, the selections below it, and the type that it is selected from if that is
known. -/
structure FieldNode where
  /-- The field. -/
  head : FieldHead
  /-- What is selected below it. -/
  selections : List Selection
  /-- The type around it. -/
  context : Context

/-- The diagnostic about a field, if there is one. -/
def FieldNode.diagnostic? (s : Schema) (node : FieldNode) : Option Diagnostic :=
  FieldSite.diagnostic? s ⟨node.head, node.context⟩

section Nodes

variable (s : Schema)

mutual

/-- The fields of a selection with what is below them, where the type around it is given. -/
def Selection.fieldNodes (context : Context) : Selection → List FieldNode
  | .field head _ selections =>
    ⟨head, selections, context⟩ :: fieldNodesOfAll (s.fieldContext context head.name) selections
  | .inline head _ selections =>
    fieldNodesOfAll (s.inlineContext context head.condition?) selections
  | .spread _ => []

/-- The fields of some selections with what is below them, where the type around them is given. -/
def fieldNodesOfAll (context : Context) : List Selection → List FieldNode
  | [] => []
  | selection :: selections => selection.fieldNodes context ++ fieldNodesOfAll context selections

end

/-- The fields of a definition with what is below them. -/
def Definition.fieldNodes : Definition → List FieldNode
  | .operation op => fieldNodesOfAll s (s.rootType? op.kind) op.selections
  | .fragment f => fieldNodesOfAll s (s.type? f.condition) f.selections

/-- The fields of a document with what is below them, in the order of the text. -/
def Document.fieldNodes (document : Document) : List FieldNode :=
  document.definitions.flatMap (Definition.fieldNodes s)

/-- The fields below a field, in the order of the text. -/
def FieldNode.below (node : FieldNode) : List FieldNode :=
  fieldNodesOfAll s (s.fieldContext node.context node.head.name) node.selections

/-- The fields about which something is reported. -/
def flagged (nodes : List FieldNode) : List FieldNode :=
  nodes.filter fun node ↦ (node.diagnostic? s).isSome

end Nodes

/-! ### The diagnostics are those of the fields -/

section Sites

variable (s : Schema)

mutual

/-- The sites of a selection are its field nodes without what is below them. -/
theorem sites_eq_map_fieldNodes : ∀ (context : Context) (selection : Selection),
    selection.sites s context =
      (selection.fieldNodes s context).map fun node ↦ ⟨node.head, node.context⟩
  | context, .field head span selections => by
    rw [Selection.sites, Selection.fieldNodes, List.map_cons, sitesOfAll_eq_map_fieldNodesOfAll]
  | context, .inline head span selections => by
    rw [Selection.sites, Selection.fieldNodes]
    cases head.condition? <;> exact sitesOfAll_eq_map_fieldNodesOfAll _ selections
  | context, .spread spread => by
    rw [Selection.sites, Selection.fieldNodes]
    rfl

/-- So are the sites of several selections. -/
theorem sitesOfAll_eq_map_fieldNodesOfAll : ∀ (context : Context) (selections : List Selection),
    sitesOfAll s context selections =
      (fieldNodesOfAll s context selections).map fun node ↦ ⟨node.head, node.context⟩
  | context, [] => by
    rw [sitesOfAll, fieldNodesOfAll]
    rfl
  | context, selection :: selections => by
    rw [sitesOfAll, fieldNodesOfAll, List.map_append, sites_eq_map_fieldNodes context selection,
      sitesOfAll_eq_map_fieldNodesOfAll context selections]

end

/-- So are the sites of a document. -/
theorem Document.sites_eq_map_fieldNodes (document : Document) :
    document.sites s =
      (document.fieldNodes s).map fun node ↦ ⟨node.head, node.context⟩ := by
  rw [sites, fieldNodes, List.map_flatMap]
  refine List.flatMap_congr fun definition _ ↦ ?_
  cases definition with
  | operation op => exact sitesOfAll_eq_map_fieldNodesOfAll s _ op.selections
  | fragment f => exact sitesOfAll_eq_map_fieldNodesOfAll s _ f.selections

end Sites

/-- The diagnostics are those of the field nodes, in their order. -/
theorem validate_eq_filterMap_fieldNodes {s : Schema} (h : s.Built) (document : Document) :
    validate [fieldSelection] s document =
      (document.fieldNodes s).filterMap (FieldNode.diagnostic? s) := by
  have hsites := validateWith_defaultRules h (.ofDocument document) document
  rw [document.sites_eq_map_fieldNodes, List.filterMap_map] at hsites
  exact hsites

/-! ### The order of the text -/

/-- Every field is directly followed by the fields below it. -/
def Preordered (s : Schema) (nodes : List FieldNode) : Prop :=
  ∀ before node after, nodes = before ++ node :: after → ∃ rest, after = node.below s ++ rest

namespace Preordered

variable {s : Schema} {nodes nodes' : List FieldNode}

theorem nil : Preordered s [] := by
  intro before node after h
  simp at h

theorem append (h : Preordered s nodes) (h' : Preordered s nodes') :
    Preordered s (nodes ++ nodes') := by
  intro before node after heq
  rcases List.append_eq_append_iff.1 heq with ⟨before', hbefore, hnodes'⟩ | ⟨tail, hnodes, htail⟩
  · -- the field is one of the second list
    exact h' before' node after hnodes'
  · rcases tail with - | ⟨node', after'⟩
    · exact h' [] node after htail.symm
    · -- the field is one of the first list, and the second comes after all that is below it
      rw [List.cons_append, List.cons.injEq] at htail
      obtain ⟨rfl, rfl⟩ := htail
      obtain ⟨rest, rfl⟩ := h before node after' hnodes
      exact ⟨rest ++ nodes', List.append_assoc _ _ _⟩

/-- A node and what is below it are in order if what is below it is. -/
theorem cons {node : FieldNode} (h : Preordered s (node.below s)) :
    Preordered s (node :: node.below s) := by
  intro before node' after heq
  rcases before with - | ⟨first, before⟩
  · obtain ⟨rfl, rfl⟩ := List.cons.inj heq
    exact ⟨[], (List.append_nil _).symm⟩
  · exact h before node' after (List.cons.inj heq).2

end Preordered

section Order

variable (s : Schema)

mutual

/-- The field nodes of a selection are in order, whatever its context. -/
theorem preordered_fieldNodes : ∀ (context : Context) (selection : Selection),
    Preordered s (selection.fieldNodes s context)
  | context, .field head span selections => by
    have hbelow : Preordered s (FieldNode.below s ⟨head, selections, context⟩) :=
      preordered_fieldNodesOfAll _ selections
    rw [Selection.fieldNodes]
    exact hbelow.cons
  | context, .inline head span selections => by
    rw [Selection.fieldNodes]
    exact preordered_fieldNodesOfAll _ selections
  | context, .spread spread => by
    rw [Selection.fieldNodes]
    exact .nil

/-- The field nodes of several selections are in order. -/
theorem preordered_fieldNodesOfAll : ∀ (context : Context) (selections : List Selection),
    Preordered s (fieldNodesOfAll s context selections)
  | context, [] => by
    rw [fieldNodesOfAll]
    exact .nil
  | context, selection :: selections => by
    rw [fieldNodesOfAll]
    exact (preordered_fieldNodes context selection).append
      (preordered_fieldNodesOfAll context selections)

end

/-- The field nodes of a document are in order. -/
theorem Document.preordered_fieldNodes (document : Document) :
    Preordered s (document.fieldNodes s) := by
  rw [fieldNodes]
  induction document.definitions with
  | nil => exact .nil
  | cons definition definitions ih =>
    rw [List.flatMap_cons]
    refine Preordered.append ?_ ih
    cases definition with
    | operation op => exact preordered_fieldNodesOfAll s _ op.selections
    | fragment f => exact preordered_fieldNodesOfAll s _ f.selections

end Order

/-! ### Conditions -/

/-- An inline fragment with a condition. -/
structure Conditioned where
  /-- The name of the type it applies to. -/
  condition : String
  /-- What is selected. -/
  selections : List Selection

/-- The fields inside of an inline fragment with a condition. Where it stands does not matter. -/
def Conditioned.fieldNodes (s : Schema) (part : Conditioned) : List FieldNode :=
  fieldNodesOfAll s (s.type? part.condition) part.selections

mutual

/-- The inline fragments with a condition that lead out of where a selection stands: it is one, or
they are below it with no other one around them. -/
def Selection.conditioned : Selection → List Conditioned
  | .field _ _ selections => conditionedOfAll selections
  | .inline head _ selections =>
    match head.condition? with
    | some condition => [⟨condition, selections⟩]
    | none => conditionedOfAll selections
  | .spread _ => []

/-- The outermost inline fragments with a condition of some selections, in the order of the text. -/
def conditionedOfAll : List Selection → List Conditioned
  | [] => []
  | selection :: selections => selection.conditioned ++ conditionedOfAll selections

end

section Flagged

variable (s : Schema)

/-- The flagged nodes of some and of others come one after the other. -/
theorem flagged_append (nodes nodes' : List FieldNode) :
    flagged s (nodes ++ nodes') = flagged s nodes ++ flagged s nodes' :=
  List.filter_append ..

/-- A field in an unknown context is not reported. -/
theorem flagged_cons_unknown (head : FieldHead) (selections : List Selection)
    (nodes : List FieldNode) :
    flagged s (⟨head, selections, none⟩ :: nodes) = flagged s nodes := rfl

mutual

/-- In an unknown context nothing is reported but what the conditions make known. By recursion on
the tree: a field passes the unknown context on, and so does an inline fragment without a condition.
-/
theorem flagged_fieldNodes_none : ∀ selection : Selection,
    flagged s (selection.fieldNodes s none) =
      selection.conditioned.flatMap fun part ↦ flagged s (part.fieldNodes s)
  | .field head span selections => by
    rw [Selection.fieldNodes, Selection.conditioned, flagged_cons_unknown, Schema.fieldContext_none]
    exact flagged_fieldNodesOfAll_none selections
  | .inline head span selections => by
    rw [Selection.fieldNodes, Selection.conditioned]
    rcases head.condition? with - | condition
    · exact flagged_fieldNodesOfAll_none selections
    · exact (List.flatMap_singleton _ _).symm
  | .spread spread => by
    rw [Selection.fieldNodes, Selection.conditioned]
    rfl

/-- The same is so of several selections. -/
theorem flagged_fieldNodesOfAll_none : ∀ selections : List Selection,
    flagged s (fieldNodesOfAll s none selections) =
      (conditionedOfAll selections).flatMap fun part ↦ flagged s (part.fieldNodes s)
  | [] => by
    rw [fieldNodesOfAll, conditionedOfAll]
    rfl
  | selection :: selections => by
    rw [fieldNodesOfAll, conditionedOfAll, flagged_append, List.flatMap_append,
      flagged_fieldNodes_none selection, flagged_fieldNodesOfAll_none selections]

end

end Flagged

/-- The context below a field is unknown if the field is reported or stands in an unknown context
itself. -/
theorem FieldNode.fieldContext_eq_none {s : Schema} {node : FieldNode}
    (h : (node.diagnostic? s).isSome ∨ node.context = none) :
    s.fieldContext node.context node.head.name = none := by
  rcases hcontext : node.context with - | t
  · rfl
  · rw [diagnostic?, FieldSite.diagnostic?, hcontext, Option.bind_some, Option.isSome_map] at h
    rcases h with h | h
    · obtain ⟨error, herror⟩ := Option.isSome_iff_exists.1 h
      exact Schema.fieldContext_of_checkField herror
    · cases h

/-- **Silence below an unknown context.** What is reported about a document is what is reported
about its fields, in the order of the text, where a field is directly followed by those below it. If
a field is reported or stands in an unknown context, then the fields below it that are reported are
those that are reported inside of the outermost conditions below it. -/
theorem flagged_below {s : Schema} (h : s.Built) (document : Document) {node : FieldNode}
    {before after : List FieldNode} (hnode : document.fieldNodes s = before ++ node :: after)
    (hsilent : (node.diagnostic? s).isSome ∨ node.context = none) :
    validate [fieldSelection] s document =
      (document.fieldNodes s).filterMap (FieldNode.diagnostic? s) ∧
    (∃ rest, after = node.below s ++ rest) ∧
    flagged s (node.below s) =
      (conditionedOfAll node.selections).flatMap fun part ↦ flagged s (part.fieldNodes s) := by
  refine ⟨validate_eq_filterMap_fieldNodes h document,
    document.preordered_fieldNodes s before node after hnode, ?_⟩
  rw [FieldNode.below, FieldNode.fieldContext_eq_none hsilent]
  exact flagged_fieldNodesOfAll_none s node.selections

/-- Below a reported field without conditions below it, nothing is reported. -/
theorem flagged_below_nodeDocument : ∃ s : Schema, s.Built ∧
    ∃ before node after, nodeDocument.fieldNodes s = before ++ node :: after ∧
      node.head.position = ⟨6, 5⟩ ∧ (node.diagnostic? s).isSome ∧ (node.below s).length = 1 ∧
      flagged s (node.below s) = [] := by
  have h : ∃ s : Schema, ∃ d : Draft, Draft.empty.load none nodeDeclarations = .ok d ∧
      d.build = .ok s ∧ ∃ node ∈ nodeDocument.fieldNodes s, node.head.position = ⟨6, 5⟩ ∧
        (node.diagnostic? s).isSome ∧ (node.below s).length = 1 ∧
        (conditionedOfAll node.selections).length = 0 := ⟨_, _, rfl, rfl, by decide +kernel⟩
  obtain ⟨s, d, hd, hs, node, hnode, hposition, hreported, hbelow, hnone⟩ := h
  have hbuilt : s.Built := ⟨d, .load none nodeDeclarations .empty hd, hs⟩
  obtain ⟨before, after, hsplit⟩ := List.append_of_mem hnode
  obtain ⟨-, -, hflagged⟩ := flagged_below hbuilt nodeDocument hsplit (Or.inl hreported)
  rw [List.eq_nil_of_length_eq_zero hnone] at hflagged
  exact ⟨s, hbuilt, before, node, after, hsplit, hposition, hreported, hbelow, hflagged⟩

/-- A query for a field that does not exist, and below it a condition with a wrong field inside. -/
def ghostDocument : Document :=
  ⟨[.operation ⟨none, ⟨⟨1, 1⟩, ⟨1, 35⟩⟩,
    [.field ⟨⟨1, 3⟩, none, "nobody", [], []⟩ ⟨⟨1, 10⟩, ⟨1, 33⟩⟩
      [.inline ⟨⟨1, 16⟩, some "User", []⟩ ⟨⟨1, 24⟩, ⟨1, 31⟩⟩
        [.field ⟨⟨1, 26⟩, none, "nmae", [], []⟩ default []]]]⟩]⟩

/-- Below a reported field another one is reported, inside of a condition. -/
theorem flagged_below_ghostDocument : ∃ s : Schema, s.Built ∧
    ∃ node ∈ ghostDocument.fieldNodes s,
      (∃ d ∈ validate [fieldSelection] s ghostDocument, d.positions = [node.head.position]) ∧
      ∃ inner ∈ node.below s, inner.head.position ≠ node.head.position ∧
        ∃ d ∈ validate [fieldSelection] s ghostDocument, d.positions = [inner.head.position] := by
  have h : ∃ s : Schema, ∃ d : Draft, Draft.empty.load none nodeDeclarations = .ok d ∧
      d.build = .ok s ∧ ∃ node ∈ ghostDocument.fieldNodes s,
        (∃ d ∈ validate [fieldSelection] s ghostDocument, d.positions = [node.head.position]) ∧
        ∃ inner ∈ node.below s, inner.head.position ≠ node.head.position ∧
          ∃ d ∈ validate [fieldSelection] s ghostDocument, d.positions = [inner.head.position] :=
    ⟨_, _, rfl, rfl, by decide +kernel⟩
  obtain ⟨s, d, hd, hs, hreported⟩ := h
  exact ⟨s, ⟨d, .load none nodeDeclarations .empty hd, hs⟩, hreported⟩

end GraphQLCheck
