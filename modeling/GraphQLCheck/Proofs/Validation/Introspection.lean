import GraphQLCheck.Proofs.Schema.Roots
import GraphQLCheck.Proofs.Validation.Repairs
import GraphQLCheck.Proofs.Validation.Silence
import Mathlib.Algebra.Order.BigOperators.Group.List

/-!
# Below the fields of introspection

The types of introspection are not described by a schema, so nothing should be known below
`__schema` and `__type`, and nothing should be reported at a field that is **reached** from one of
them, through fields and inline fragments without a condition (`FieldNode.reached`). The tracker has
no case for these two names. It looks them up like all others, and it finds nothing as long as no
type declares them (`Schema.Built.fieldContext_eq_none_iff`).

The names of types that begin with two underscores are turned away when a schema is loaded, but
those of fields are not. So a type can declare `__schema`, and then its selections are checked
against whatever that field gives back (`reported_introspectedDocument`). A schema is sealed when
this never shows (`Schema.Sealed`). It is sealed exactly when the types that declare such a field
give back a leaf, from which nothing can be selected anyway (`sealed_of_built`).
-/

namespace GraphQLCheck

/-- The fields of introspection that give back what the schema does not describe. -/
def introspectionFields : List String := ["__schema", "__type"]

section Reached

variable (s : Schema)

mutual

/-- The fields of a selection that are reached through fields and inline fragments without a
condition. -/
def Selection.plainNodes (context : Context) : Selection → List FieldNode
  | .field head _ selections =>
    ⟨head, selections, context⟩ :: plainNodesOfAll (s.fieldContext context head.name) selections
  | .inline head _ selections =>
    match head.condition? with
    | some _ => []
    | none => plainNodesOfAll context selections
  | .spread _ => []

/-- The fields of some selections that are reached in this way, in the order of the text. -/
def plainNodesOfAll (context : Context) : List Selection → List FieldNode
  | [] => []
  | selection :: selections => selection.plainNodes context ++ plainNodesOfAll context selections

end

/-- The fields that are reached from a field. -/
def FieldNode.reached (node : FieldNode) : List FieldNode :=
  plainNodesOfAll s (s.fieldContext node.context node.head.name) node.selections

/-- Nothing is reported at a field that is reached from one of introspection, in any document. -/
def Schema.Sealed : Prop :=
  ∀ document : Document, ∀ node ∈ document.fieldNodes s, node.head.name ∈ introspectionFields →
    ∀ inner ∈ node.reached s, inner.diagnostic? s = none

/-! ### The fields that are reached are below -/

mutual

theorem sublist_plainNodes : ∀ (context : Context) (selection : Selection),
    (selection.plainNodes s context).Sublist (selection.fieldNodes s context)
  | context, .field head span selections => by
    rw [Selection.plainNodes, Selection.fieldNodes]
    exact (sublist_plainNodesOfAll _ selections).cons_cons _
  | context, .inline head span selections => by
    rw [Selection.plainNodes, Selection.fieldNodes]
    rcases head.condition? with - | condition
    · exact sublist_plainNodesOfAll context selections
    · exact List.nil_sublist _
  | context, .spread spread => by
    rw [Selection.plainNodes, Selection.fieldNodes]

theorem sublist_plainNodesOfAll : ∀ (context : Context) (selections : List Selection),
    (plainNodesOfAll s context selections).Sublist (fieldNodesOfAll s context selections)
  | context, [] => by
    rw [plainNodesOfAll, fieldNodesOfAll]
  | context, selection :: selections => by
    rw [plainNodesOfAll, fieldNodesOfAll]
    exact (sublist_plainNodes context selection).append (sublist_plainNodesOfAll context selections)

end

end Reached

/-! ### Contexts from which nothing is reported -/

/-- A context that is not known to be a type from which something can be selected. -/
def Context.Quiet (context : Context) : Prop := ∀ t ∈ context, t.isComposite = false

namespace Context.Quiet

variable {s : Schema} {context : Context}

theorem none : Context.Quiet none := nofun

/-- Nothing is known below a quiet context. -/
theorem fieldContext_eq_none (h : context.Quiet) (name : String) :
    s.fieldContext context name = Option.none := by
  rcases context with - | t
  · rfl
  · have ht : t.isComposite = false := h t rfl
    by_cases htypename : name = typenameField
    · rw [htypename, Schema.fieldContext_typename, ht]
      rfl
    · rw [Schema.fieldContext_of_ne htypename, t.field?_eq_none_of_not_isComposite ht]
      rfl

theorem diagnostic?_eq_none (h : context.Quiet) (head : FieldHead) (selections : List Selection) :
    FieldNode.diagnostic? s ⟨head, selections, context⟩ = Option.none := by
  rcases context with - | t
  · rfl
  · have hcheck : checkField s t head.name = Option.none :=
      checkField_eq_none_iff.2 (Or.inr (Or.inl (h t rfl)))
    simp [FieldNode.diagnostic?, FieldSite.diagnostic?, hcheck]

end Context.Quiet

section Quiet

variable (s : Schema)

mutual

/-- Nothing is reported at the fields that are reached in a quiet context. By recursion on the tree:
below a field nothing is known, and an inline fragment without a condition stays in the context. -/
theorem quiet_plainNodes : ∀ {context : Context}, context.Quiet → ∀ selection : Selection,
    ∀ node ∈ selection.plainNodes s context, node.diagnostic? s = none
  | context, h, .field head span selections => by
    rw [Selection.plainNodes, List.forall_mem_cons, h.fieldContext_eq_none]
    exact ⟨h.diagnostic?_eq_none head selections, quiet_plainNodesOfAll .none selections⟩
  | context, h, .inline head span selections => by
    rw [Selection.plainNodes]
    rcases head.condition? with - | condition
    · exact quiet_plainNodesOfAll h selections
    · exact nofun
  | context, h, .spread spread => by
    rw [Selection.plainNodes]
    exact nofun

theorem quiet_plainNodesOfAll : ∀ {context : Context}, context.Quiet →
    ∀ selections : List Selection, ∀ node ∈ plainNodesOfAll s context selections,
      node.diagnostic? s = none
  | context, _, [] => by
    rw [plainNodesOfAll]
    exact nofun
  | context, h, selection :: selections => by
    rw [plainNodesOfAll, List.forall_mem_append]
    exact ⟨quiet_plainNodes h selection, quiet_plainNodesOfAll h selections⟩

end

end Quiet

/-! ### The contexts of a document are types of the schema -/

namespace Schema.Built

variable {s : Schema} {context : Context}

mutual

theorem contextOf_fieldNodes (h : s.Built) : ∀ {context : Context}, context.Of s →
    ∀ selection : Selection, ∀ node ∈ selection.fieldNodes s context, node.context.Of s
  | context, hcontext, .field head span selections => by
    rw [Selection.fieldNodes, List.forall_mem_cons]
    exact ⟨hcontext,
      h.contextOf_fieldNodesOfAll (h.contextOf_fieldContext hcontext head.name) selections⟩
  | context, hcontext, .inline head span selections => by
    rw [Selection.fieldNodes]
    exact h.contextOf_fieldNodesOfAll (contextOf_inlineContext hcontext head.condition?) selections
  | context, _, .spread spread => by
    rw [Selection.fieldNodes]
    exact nofun

theorem contextOf_fieldNodesOfAll (h : s.Built) : ∀ {context : Context}, context.Of s →
    ∀ selections : List Selection, ∀ node ∈ fieldNodesOfAll s context selections,
      node.context.Of s
  | context, _, [] => by
    rw [fieldNodesOfAll]
    exact nofun
  | context, hcontext, selection :: selections => by
    rw [fieldNodesOfAll, List.forall_mem_append]
    exact ⟨h.contextOf_fieldNodes hcontext selection,
      h.contextOf_fieldNodesOfAll hcontext selections⟩

end

/-- A field of a document stands in a type of the schema, if that type is known. -/
theorem contextOf_document (h : s.Built) (document : Document) :
    ∀ node ∈ document.fieldNodes s, node.context.Of s := by
  intro node hnode
  obtain ⟨definition, -, hnode⟩ := List.mem_flatMap.1 hnode
  cases definition with
  | operation op =>
    exact h.contextOf_fieldNodesOfAll (fun _ ht ↦ mem_values_of_rootType? ht) op.selections node
      hnode
  | fragment f =>
    exact h.contextOf_fieldNodesOfAll (contextOf_type? s f.condition) f.selections node hnode

end Schema.Built

/-! ### Below the fields of introspection -/

section Introspection

variable {s : Schema} {t : NamedType} {name : String}

theorem ne_typenameField_of_mem (h : name ∈ introspectionFields) : name ≠ typenameField := by
  rintro rfl
  exact absurd h (by decide)

/-- The tracker knows nothing below a field of introspection exactly when the type around it, if it
is known, does not declare the field. -/
theorem Schema.Built.fieldContext_eq_none_iff (h : s.Built) {context : Context}
    (hcontext : context.Of s) (hname : name ∈ introspectionFields) :
    s.fieldContext context name = none ↔ ∀ t ∈ context, t.field? name = none := by
  rcases context with - | t
  · exact iff_of_true rfl nofun
  · rw [Schema.fieldContext_of_ne (ne_typenameField_of_mem hname)]
    simp only [Option.mem_some_iff, forall_eq']
    rcases hfield : t.field? name with - | f
    · exact iff_of_true rfl rfl
    · obtain ⟨u, hu, -⟩ := h.exists_returnType?_of_field? (hcontext t rfl) hfield
      rw [Option.bind_some, hu]
      exact iff_of_false (Option.some_ne_none u) (Option.some_ne_none f)

/-- Nothing is reported at the fields that are reached from a field of introspection that the type
around it does not declare. -/
theorem FieldNode.silent_of_not_declared {node : FieldNode}
    (hname : node.head.name ∈ introspectionFields)
    (hnone : ∀ t ∈ node.context, t.field? node.head.name = none) :
    ∀ inner ∈ node.reached s, inner.diagnostic? s = none := by
  have hunknown : s.fieldContext node.context node.head.name = none := by
    rcases hcontext : node.context with - | t
    · rfl
    · rw [Schema.fieldContext_of_ne (ne_typenameField_of_mem hname), hnone t hcontext]
      rfl
  rw [reached, hunknown]
  exact quiet_plainNodesOfAll s .none node.selections

/-- Where a type declares a field of introspection, the field gives back a leaf. -/
def NamedType.LeafIntrospection (s : Schema) (t : NamedType) : Prop :=
  ∀ name ∈ introspectionFields, ∀ f, t.field? name = some f →
    ∀ u, s.returnType? f = some u → u.isComposite = false

theorem quiet_fieldContext (hleaf : ∀ t ∈ s.types.values, t.LeafIntrospection s)
    {context : Context} (hcontext : context.Of s) (hname : name ∈ introspectionFields) :
    (s.fieldContext context name).Quiet := by
  rcases context with - | t
  · exact .none
  · rw [Schema.fieldContext_of_ne (ne_typenameField_of_mem hname)]
    intro u hu
    obtain ⟨f, hf, hreturn⟩ := Option.bind_eq_some_iff.1 hu
    exact hleaf t (hcontext t rfl) name hname f hf u hreturn

/-- There is always one more name. -/
theorem exists_replicate_not_mem (names : List String) :
    ∃ n, String.ofList (List.replicate n 'x') ∉ names := by
  refine ⟨(names.map String.length).sum + 1, fun hmem ↦ ?_⟩
  have hle := List.le_sum_of_mem (List.mem_map_of_mem (f := String.length) hmem)
  rw [String.length_ofList, List.length_replicate] at hle
  omega

/-- On a composite type, some field is wrong. -/
theorem exists_isSome_checkField (s : Schema) (h : t.isComposite = true) :
    ∃ field, (checkField s t field).isSome = true := by
  obtain ⟨n, hn⟩ := exists_replicate_not_mem (metaFields ++ t.fieldNames)
  rw [List.mem_append, not_or, NamedType.mem_fieldNames_iff, Option.not_isSome_iff_eq_none] at hn
  exact ⟨_, Option.isSome_iff_exists.2 ⟨_, checkField_eq_some_iff.2 ⟨hn.1, h, hn.2, rfl⟩⟩⟩

/-- A fragment on a type, in which a field is selected and one field below it. -/
def nestedDocument (type outer inner : String) : Document :=
  let field (name : String) (selections : List Selection) : Selection :=
    .field ⟨default, none, name, [], []⟩ default selections
  ⟨[.fragment ⟨default, "F", type, [], default, [field outer [field inner []]]⟩]⟩

/-- If a schema is sealed, its fields of introspection give back leaves: from every other type
something can be selected that is reported. -/
theorem leafIntrospection_of_sealed (h : s.Built) (hsealed : s.Sealed) (ht : t ∈ s.types.values) :
    t.LeafIntrospection s := by
  intro outer houter f hf u hu
  by_contra hcomposite
  obtain ⟨inner, hinner⟩ := exists_isSome_checkField s (Bool.not_eq_false _ ▸ hcomposite)
  have htype : s.type? t.name = some t := h.byName.names.get?_of_mem ht
  have hbelow : s.fieldContext (s.type? t.name) outer = some u := by
    rw [htype, Schema.fieldContext_of_ne (ne_typenameField_of_mem houter), hf]
    exact hu
  have hsilent := hsealed (nestedDocument t.name outer inner) _ List.mem_cons_self houter _
    List.mem_cons_self
  obtain ⟨error, herror⟩ := Option.isSome_iff_exists.1 hinner
  simp only [FieldNode.diagnostic?, FieldSite.diagnostic?, hbelow, Option.bind_some, herror,
    Option.map_some] at hsilent
  exact Option.some_ne_none _ hsilent

/-- **What is known and reported below the fields of introspection.** Below such a field the tracker
knows nothing, unless the type around it declares the field; then nothing is reported at the fields
that are reached from it. What is reported about a document is what is reported at its fields, and
those that are reached from a field are some of those below it. Nothing is ever reported there
exactly when every type that declares such a field gives back a leaf. -/
theorem sealed_of_built (h : s.Built) :
    (∀ context : Context, context.Of s → ∀ name ∈ introspectionFields,
      (s.fieldContext context name = none ↔ ∀ t ∈ context, t.field? name = none)) ∧
    (∀ document : Document, validate [fieldSelection] s document =
      (document.fieldNodes s).filterMap (FieldNode.diagnostic? s)) ∧
    (∀ node : FieldNode, (node.reached s).Sublist (node.below s) ∧
      (node.head.name ∈ introspectionFields → (∀ t ∈ node.context, t.field? node.head.name = none) →
        ∀ inner ∈ node.reached s, inner.diagnostic? s = none)) ∧
    (s.Sealed ↔ ∀ t ∈ s.types.values, t.LeafIntrospection s) := by
  refine ⟨fun context hcontext name hname ↦ h.fieldContext_eq_none_iff hcontext hname,
    fun document ↦ validate_eq_filterMap_fieldNodes h document,
    fun node ↦ ⟨sublist_plainNodesOfAll s _ node.selections, FieldNode.silent_of_not_declared⟩,
    fun hsealed t ht ↦ leafIntrospection_of_sealed h hsealed ht,
    fun hleaf document node hnode hname ↦ ?_⟩
  have hcontext := h.contextOf_document document node hnode
  exact quiet_plainNodesOfAll s (quiet_fieldContext hleaf hcontext hname) node.selections

end Introspection

/-- A query for a field of introspection, with a field below it that no type has. -/
def introspectedDocument : Document :=
  ⟨[.operation ⟨none, ⟨⟨1, 1⟩, ⟨1, 21⟩⟩,
    [.field ⟨⟨1, 3⟩, none, "__schema", [], []⟩ ⟨⟨1, 12⟩, ⟨1, 19⟩⟩
      [.field ⟨⟨1, 14⟩, none, "nmae", [], []⟩ default []]]⟩]⟩

/-- Where no type declares the field, nothing is reported below it. -/
theorem sealed_nodeDeclarations : ∃ s : Schema, s.Built ∧ s.Sealed ∧
    ∃ node ∈ introspectedDocument.fieldNodes s, node.head.name = "__schema" ∧
      s.fieldContext node.context "__schema" = none ∧
      (node.reached s).map (fun inner ↦ inner.head.name) = ["nmae"] ∧
      ∀ inner ∈ node.reached s, inner.diagnostic? s = none := by
  have h : ∃ s : Schema, ∃ d : Draft, Draft.empty.load none nodeDeclarations = .ok d ∧
      d.build = .ok s ∧
      (∀ t ∈ s.types.values, ∀ name ∈ introspectionFields, t.field? name = none) ∧
      ∃ node ∈ introspectedDocument.fieldNodes s, node.head.name = "__schema" ∧
        (node.reached s).map (fun inner ↦ inner.head.name) = ["nmae"] :=
    ⟨_, _, rfl, rfl, by decide +kernel⟩
  obtain ⟨s, d, hd, hs, hnone, node, hnode, hname, hreached⟩ := h
  have hbuilt : s.Built := ⟨d, .load none nodeDeclarations .empty hd, hs⟩
  have hcontext := hbuilt.contextOf_document introspectedDocument node hnode
  have hschema : "__schema" ∈ introspectionFields := List.mem_cons_self
  obtain ⟨hknown, -, hsilent, hsealed⟩ := sealed_of_built hbuilt
  refine ⟨s, hbuilt, hsealed.2 fun t ht name hmem f hf ↦ ?_, node, hnode, hname,
    (hknown _ hcontext _ hschema).2 fun t ht ↦ hnone t (hcontext t ht) _ hschema, hreached,
    (hsilent node).2 (hname ▸ hschema) fun t ht ↦ ?_⟩
  · rw [hnone t ht name hmem] at hf
    exact nomatch hf
  · rw [hname]
    exact hnone t (hcontext t ht) _ hschema

/-- A schema whose query type declares a field of introspection. -/
def introspectedDeclarations : List Declaration :=
  [.type ⟨⟨1, 1⟩, none, "Query", .object [] [⟨⟨2, 3⟩, none, "__schema", [], .named "User"⟩]⟩,
    .type ⟨⟨4, 1⟩, none, "User", .object [] [⟨⟨5, 3⟩, none, "name", [], .named "String"⟩]⟩]

/-- Such a schema is built, the tracker knows what is below the field, and a field that is reached
from it is reported. -/
theorem reported_introspectedDocument : ∃ s : Schema, s.Built ∧
    ∃ node ∈ introspectedDocument.fieldNodes s, node.head.name = "__schema" ∧
      (s.fieldContext node.context "__schema").isSome = true ∧
      ∃ inner ∈ node.reached s, ∃ d ∈ validate [fieldSelection] s introspectedDocument,
        inner.diagnostic? s = some d ∧ d.positions = [⟨1, 14⟩] := by
  have h : ∃ s : Schema, ∃ d : Draft, Draft.empty.load none introspectedDeclarations = .ok d ∧
      d.build = .ok s ∧
      ∃ node ∈ introspectedDocument.fieldNodes s, node.head.name = "__schema" ∧
        (s.fieldContext node.context "__schema").isSome = true ∧
        ∃ inner ∈ node.reached s, ∃ d ∈ validate [fieldSelection] s introspectedDocument,
          inner.diagnostic? s = some d ∧ d.positions = [⟨1, 14⟩] :=
    ⟨_, _, rfl, rfl, by decide +kernel⟩
  obtain ⟨s, d, hd, hs, hreported⟩ := h
  exact ⟨s, ⟨d, .load none introspectedDeclarations .empty hd, hs⟩, hreported⟩

end GraphQLCheck
