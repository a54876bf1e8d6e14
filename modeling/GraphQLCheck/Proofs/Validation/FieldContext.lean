import GraphQLCheck.Proofs.Schema.References
import GraphQLCheck.Rule.FieldSelection

/-!
# The rule about fields and the tracker agree

Whether a field can be selected from a type is found out twice. The rule asks whether the type
declares the field (`checkField`), and the tracker asks what the field gives back
(`Schema.fieldContext`). Each treats the fields of introspection in its own way: the rule lets all
of them pass on every type, while the tracker knows only the one that gives the name of the type,
and only on composite types.

Both come down to whether the type has the field (`checkField_eq_none_iff`,
`Schema.Built.exists_fieldContext_iff`), because the type of a declared field is always there in a
built schema. So the rule reports a field exactly when the selections below it stand in an unknown
context (`checkField_agrees_fieldContext`), on composite types and apart from the two fields of
introspection that give back nothing the schema describes.

Whatever the tracker goes into is looked up in the schema, or it is where the tracker was before. So
a context that is known is a type of the schema (`Context.Of`).
-/

namespace GraphQLCheck

variable {s : Schema} {t : NamedType} {name : String}

/-! ### The two look-ups -/

theorem NamedType.field?_eq_none_of_not_isComposite (h : t.isComposite = false) (name : String) :
    t.field? name = none := by
  rw [isComposite, kind] at h
  rw [field?, fields?]
  rcases hshape : t.shape with _ | _ | _ | _ | _ | _ <;> simp_all

theorem NamedType.isSome_field?_iff {fields : Dict Field} (h : t.fields? = some fields) :
    (t.field? name).isSome ↔ fields.contains name = true := by
  rw [field?, h]
  rfl

/-- Nothing is wrong with a field of introspection, with a field on a leaf type, and with a field
that the type declares. -/
theorem checkField_eq_none_iff :
    checkField s t name = none ↔
      name ∈ metaFields ∨ t.isComposite = false ∨ (t.field? name).isSome := by
  rw [checkField]
  by_cases hmeta : name ∈ metaFields
  · simp [hmeta]
  · rw [if_neg (by simpa using hmeta)]
    rcases hshape : t.shape with _ | _ | ⟨fields, _⟩ | ⟨fields, _⟩ | _ | _
    case interface | object =>
      have hfields : t.fields? = some fields := by rw [NamedType.fields?, hshape]
      rw [NamedType.isSome_field?_iff hfields]
      simp [hmeta, NamedType.isComposite, NamedType.kind, hshape]
    all_goals
      simp [hmeta, NamedType.isComposite, NamedType.kind, NamedType.field?, NamedType.fields?,
        hshape]

/-- Apart from the field that gives the name of a type, the tracker looks among the declared fields.
-/
theorem Schema.fieldContext_of_ne (h : name ≠ typenameField) :
    s.fieldContext (some t) name = (t.field? name).bind s.returnType? :=
  if_neg h

theorem Schema.fieldContext_typename :
    s.fieldContext (some t) typenameField =
      if t.isComposite then s.type? BuiltInScalar.string.name else none := by
  rw [fieldContext, if_pos rfl]

/-- Below a field that is reported nothing is known: it is not one of introspection, and the type
does not declare it. -/
theorem Schema.fieldContext_of_checkField {error : FieldError}
    (h : checkField s t name = some error) : s.fieldContext (some t) name = none := by
  have hwrong : ¬ checkField s t name = none := by
    rw [h]
    exact Option.some_ne_none error
  rw [checkField_eq_none_iff, not_or, not_or, Option.not_isSome_iff_eq_none] at hwrong
  obtain ⟨hmeta, -, hfield⟩ := hwrong
  have htypename : name ≠ typenameField := by
    rintro rfl
    exact hmeta (by decide)
  rw [fieldContext_of_ne htypename, hfield]
  rfl

/-! ### What the tracker finds -/

namespace Schema

/-- A declared field of a built schema gives back a type of the schema that can be answered. -/
theorem Built.exists_returnType?_of_field? (h : s.Built) (ht : t ∈ s.types.values) {f : Field}
    (hf : t.field? name = some f) : ∃ u, s.returnType? f = some u ∧ u.kind ≠ .inputObject := by
  obtain ⟨fields, hfields, hget⟩ := Option.bind_eq_some_iff.1 hf
  exact h.exists_returnType? ht hfields (Dict.mem_values_of_get? hget)

/-- On a composite type the tracker knows what is below the field that gives the name of the type,
and below those that the type declares. -/
theorem Built.exists_fieldContext_iff (h : s.Built) (ht : t ∈ s.types.values)
    (hcomposite : t.isComposite = true) :
    (∃ u, s.fieldContext (some t) name = some u) ↔
      name = typenameField ∨ (t.field? name).isSome := by
  by_cases htypename : name = typenameField
  · obtain ⟨description, hstring⟩ := h.type?_builtIn .string
    rw [htypename, fieldContext_typename, if_pos hcomposite, hstring]
    simp
  · rw [fieldContext_of_ne htypename]
    rcases hf : t.field? name with - | f
    · simp [htypename]
    · obtain ⟨u, hu, -⟩ := h.exists_returnType?_of_field? ht hf
      simp [hu]

/-- What the tracker knows below a field is a type of the schema, and not an input object. -/
theorem Built.type?_of_fieldContext (h : s.Built) (ht : t ∈ s.types.values) {u : NamedType}
    (hu : s.fieldContext (some t) name = some u) :
    s.type? u.name = some u ∧ u.kind ≠ .inputObject := by
  by_cases htypename : name = typenameField
  · rw [htypename, fieldContext_typename] at hu
    split at hu
    · obtain ⟨description, hstring⟩ := h.type?_builtIn .string
      rw [hstring] at hu
      rw [← Option.some.inj hu]
      exact ⟨hstring, nofun⟩
    · exact nomatch hu
  · rw [fieldContext_of_ne htypename] at hu
    obtain ⟨f, hf, hreturn⟩ := Option.bind_eq_some_iff.1 hu
    obtain ⟨v, hv, hkind⟩ := h.exists_returnType?_of_field? ht hf
    rw [hreturn, Option.some.injEq] at hv
    exact ⟨h.name_of_returnType? hreturn ▸ hreturn, hv ▸ hkind⟩

end Schema

/-! ### Contexts are types of the schema -/

/-- A context that is a type of the schema, if it is known. -/
def Context.Of (s : Schema) (context : Context) : Prop := ∀ t ∈ context, t ∈ s.types.values

namespace Schema.Built

variable {context : Context}

theorem contextOf_type? (s : Schema) (name : String) : Context.Of s (s.type? name) :=
  fun _ ht ↦ Dict.mem_values_of_get? ht

theorem contextOf_fieldContext (h : s.Built) (hcontext : context.Of s) (name : String) :
    (s.fieldContext context name).Of s := by
  rcases context with - | t
  · exact nofun
  · exact fun u hu ↦ Dict.mem_values_of_get? (h.type?_of_fieldContext (hcontext t rfl) hu).1

theorem contextOf_inlineContext (hcontext : context.Of s) (condition? : Option String) :
    (s.inlineContext context condition?).Of s := by
  rcases condition? with - | condition
  · exact hcontext
  · exact contextOf_type? s condition

theorem contextOf_operationContext (s : Schema) (kind : OperationKind) :
    Context.Of s (s.operationContext kind) := by
  intro u hu
  obtain ⟨t, -, htype⟩ := Option.bind_eq_some_iff.1 hu
  exact contextOf_type? s t.name u htype

theorem contextOf_spreadContext (s : Schema) (fragments : Fragments) (name : String) :
    Context.Of s (s.spreadContext fragments name) := by
  rw [spreadContext]
  split
  · exact contextOf_type? s _
  · exact nofun

/-- A field leads to something other than an input object, if to anything. -/
theorem kind_of_fieldContext (h : s.Built) (hcontext : context.Of s) {u : NamedType}
    (hu : s.fieldContext context name = some u) : u.kind ≠ .inputObject := by
  rcases context with - | t
  · exact nomatch hu
  · exact (h.type?_of_fieldContext (hcontext t rfl) hu).2

end Schema.Built

/-! ### Agreement -/

/-- **The rule and the tracker agree.** Below a field that is reported, nothing is known. On a
composite type, and apart from the two fields of introspection that the tracker does not know, a
field is not reported exactly when something is known below it, and that is a type of the schema
other than an input object. On a leaf type nothing is reported and nothing is known. -/
theorem checkField_agrees_fieldContext (h : s.Built) (ht : t ∈ s.types.values) (name : String) :
    (∀ error, checkField s t name = some error → s.fieldContext (some t) name = none) ∧
    (t.isComposite = true → name ∉ ["__schema", "__type"] →
      (checkField s t name = none ↔ ∃ u, s.fieldContext (some t) name = some u) ∧
      ∀ u, s.fieldContext (some t) name = some u →
        s.type? u.name = some u ∧ u.kind ≠ .inputObject) ∧
    (t.isComposite = false →
      checkField s t name = none ∧ s.fieldContext (some t) name = none) := by
  refine ⟨fun _ ↦ Schema.fieldContext_of_checkField, fun hcomposite hname ↦ ⟨?_, fun u hu ↦ ?_⟩,
    fun hleaf ↦ ⟨?_, ?_⟩⟩
  · have hmeta : name ∈ metaFields ↔ name = typenameField := by
      simp only [List.mem_cons, List.not_mem_nil, or_false, not_or] at hname
      simp [metaFields, hname.1, hname.2]
    rw [checkField_eq_none_iff, h.exists_fieldContext_iff ht hcomposite, hmeta, hcomposite]
    simp
  · exact h.type?_of_fieldContext ht hu
  · exact checkField_eq_none_iff.2 (Or.inr (Or.inl hleaf))
  · by_cases htypename : name = typenameField
    · rw [htypename, Schema.fieldContext_typename, hleaf]
      rfl
    · rw [Schema.fieldContext_of_ne htypename, t.field?_eq_none_of_not_isComposite hleaf]
      rfl

/-- On an interface, a field that it declares and one that it does not. -/
theorem checkField_agrees_petDeclarations : ∃ s : Schema, s.Built ∧ ∃ t ∈ s.types.values,
    t.kind = .interface ∧
    (checkField s t "name" = none ∧
      ∃ u, s.fieldContext (some t) "name" = some u ∧ s.type? u.name = some u) ∧
    (∃ error, checkField s t "nmae" = some error ∧ error.suggested = ["name"]) ∧
    s.fieldContext (some t) "nmae" = none := by
  have h : ∃ s : Schema, ∃ d : Draft, Draft.empty.load none petDeclarations = .ok d ∧
      d.build = .ok s ∧ ∃ t ∈ s.types.values, t.kind = .interface ∧
        checkField s t "name" = none ∧
        (checkField s t "nmae").map FieldError.suggested = some ["name"] :=
    ⟨_, _, rfl, rfl, by decide +kernel⟩
  obtain ⟨s, d, hd, hs, t, ht, hkind, hname, hwrong⟩ := h
  have hbuilt : s.Built := ⟨d, .load none petDeclarations .empty hd, hs⟩
  have hcomposite : t.isComposite = true := by rw [NamedType.isComposite, hkind]
  obtain ⟨-, hagree, -⟩ := checkField_agrees_fieldContext hbuilt ht "name"
  obtain ⟨hiff, htype⟩ := hagree hcomposite (by decide)
  obtain ⟨u, hu⟩ := hiff.1 hname
  obtain ⟨error, herror, hsuggested⟩ := Option.map_eq_some_iff.1 hwrong
  obtain ⟨hbelow, -⟩ := checkField_agrees_fieldContext hbuilt ht "nmae"
  exact ⟨s, hbuilt, t, ht, hkind, ⟨hname, u, hu, (htype u hu).1⟩, ⟨error, herror, hsuggested⟩,
    hbelow error herror⟩

end GraphQLCheck
