import GraphQLCheck.Proofs.Schema.Multiplicity
import GraphQLCheck.Proofs.Schema.PossibleNames
import GraphQLCheck.Proofs.Suggestion.Ranking
import GraphQLCheck.Proofs.Validation.FieldContext
import GraphQLCheck.Proofs.Validation.FieldSites

/-!
# What an error about a field suggests

A field that cannot be selected from a type is reported together with what might have been meant.
There is one condition for the report, and it fixes all of the error (`checkField_eq_some_iff`): the
type is composite, and the field is neither one of introspection nor one that the type declares.
What the error suggests then depends on the possible types alone. If some of them declare the field,
these are suggested, and otherwise the declared fields of the type with a similar name are.

Every suggestion works: the field can be selected from each of the suggested types, and each of the
suggested fields can be selected from the type. And none is missing: the suggested types are all of
the possible types that declare the field, and the suggested fields are the first five of the
ranking (`suggestions_of_checkField`).
-/

namespace GraphQLCheck

variable {s : Schema} {t : NamedType} {name : String}

/-- The names of the fields that can be selected from a type, in the order of their declarations. -/
def NamedType.fieldNames (t : NamedType) : List String := t.fields?.elim [] Dict.keys

theorem NamedType.mem_fieldNames_iff : name ∈ t.fieldNames ↔ (t.field? name).isSome := by
  rw [fieldNames]
  rcases hfields : t.fields? with - | fields
  · simp [field?, hfields]
  · rw [isSome_field?_iff hfields, Dict.contains_iff]
    rfl

/-- The fields of a type have the names that its declaration lists, in order. -/
theorem NamedType.fieldNames_of_ofDecl {file : Option String} {decl : TypeDecl}
    (h : NamedType.ofDecl file decl = .ok t) (hfields : t.fields?.isSome) :
    t.fieldNames = decl.body.fields.map FieldDecl.name := by
  obtain ⟨fields, hfields⟩ := Option.isSome_iff_exists.1 hfields
  rw [fieldNames, hfields]
  show fields.keys = _
  rw [Dict.keys, NamedType.entries_of_ofDecl h hfields, List.map_map]
  rfl

/-! ### The error -/

theorem suggest_nil (target : String) (count : ℕ) : suggest target [] count = [] := by
  rw [suggest, Suggestion.near, List.map_nil, List.filter_nil, List.mergeSort_nil, List.take_nil]
  rfl

theorem checkField_of_field?_eq_none (hmeta : name ∉ metaFields) (hcomposite : t.isComposite = true)
    (hfield : t.field? name = none) : checkField s t name =
      some (fieldError s t name (suggest name t.fieldNames Suggestion.maxCount)) := by
  rw [checkField, if_neg (by simpa using hmeta), NamedType.fieldNames]
  rcases hshape : t.shape with _ | _ | ⟨fields, _⟩ | ⟨fields, _⟩ | _ | _
  case interface | object =>
    have hfields : t.fields? = some fields := by rw [NamedType.fields?, hshape]
    have hundeclared : ¬ fields.contains name = true := by
      rw [← NamedType.isSome_field?_iff hfields, hfield]
      exact Bool.false_ne_true
    rw [hfields]
    exact if_neg hundeclared
  case union =>
    have hfields : t.fields? = none := by rw [NamedType.fields?, hshape]
    rw [hfields, Option.elim_none, suggest_nil]
  all_goals
    rw [NamedType.isComposite, NamedType.kind, hshape] at hcomposite
    cases hcomposite

/-- **When a field is reported, and how.** -/
theorem checkField_eq_some_iff {error : FieldError} :
    checkField s t name = some error ↔
      name ∉ metaFields ∧ t.isComposite = true ∧ t.field? name = none ∧
        fieldError s t name (suggest name t.fieldNames Suggestion.maxCount) = error := by
  constructor
  · intro h
    have hwrong : ¬ checkField s t name = none := by
      rw [h]
      exact Option.some_ne_none error
    rw [checkField_eq_none_iff, not_or, not_or, Bool.not_eq_false,
      Option.not_isSome_iff_eq_none] at hwrong
    obtain ⟨hmeta, hcomposite, hfield⟩ := hwrong
    rw [checkField_of_field?_eq_none hmeta hcomposite hfield] at h
    exact ⟨hmeta, hcomposite, hfield, Option.some.inj h⟩
  · rintro ⟨hmeta, hcomposite, hfield, rfl⟩
    exact checkField_of_field?_eq_none hmeta hcomposite hfield

theorem fieldError_eq_onPossibleTypes_iff {similar types : List String} {field type : String} :
    fieldError s t name similar = .onPossibleTypes field type types ↔
      name = field ∧ t.name = type ∧ possibleOwners s t name = types ∧ types ≠ [] := by
  rw [fieldError]
  by_cases hempty : possibleOwners s t name = []
  · simp only [hempty, List.isEmpty_nil, if_true, reduceCtorEq, false_iff]
    rintro ⟨-, -, rfl, hne⟩
    exact hne rfl
  · rw [if_neg (by simpa using hempty), FieldError.onPossibleTypes.injEq]
    refine and_congr_right fun _ ↦ and_congr_right fun _ ↦ ?_
    exact ⟨fun h ↦ ⟨h, h ▸ hempty⟩, fun h ↦ h.1⟩

theorem fieldError_eq_unknown_iff {similar fields : List String} {field type : String} :
    fieldError s t name similar = .unknown field type fields ↔
      name = field ∧ t.name = type ∧ similar = fields ∧ possibleOwners s t name = [] := by
  rw [fieldError]
  by_cases hempty : possibleOwners s t name = []
  · simp [hempty]
  · rw [if_neg (by simpa using hempty)]
    simp [hempty]

/-! ### The suggestions -/

/-- A field that the type declares can be selected from it. -/
theorem checkField_of_isSome_field? (h : (t.field? name).isSome) : checkField s t name = none :=
  checkField_eq_none_iff.2 (Or.inr (Or.inr h))

/-- The types that an error suggests for a field that is not to be selected from `t`. -/
structure SuggestsTypes (s : Schema) (t : NamedType) (name : String) (types : List String) :
    Prop where
  /-- Other types appear in the place of the type. -/
  isAbstract : t.kind = .interface ∨ t.kind = .union
  /-- Something is suggested. -/
  nonempty : types ≠ []
  /-- It is all of the possible types that declare the field, in their order. -/
  owners : types = (s.possibleNames t).filter fun possible ↦
    (s.type? possible).any fun u ↦ (u.field? name).isSome
  /-- The field can be selected from each of them. -/
  repairs : ∀ possible ∈ types, ∃ u, s.type? possible = some u ∧ checkField s u name = none

/-- The schema is that of some documents; and whichever these are, they declare the type with fields
of the given names, in this order. -/
def Schema.DeclaresFields (s : Schema) (t : NamedType) (names : List String) : Prop :=
  (∃ docs, Schema.ofDocuments docs = .ok s) ∧ ∀ docs, Schema.ofDocuments docs = .ok s →
    ∃ p ∈ placedIn docs, ∃ decl, p.declaration = .type decl ∧ decl.name = t.name ∧
      decl.body.fields.map FieldDecl.name = names

/-- The fields that an error suggests in the place of one that is not to be selected from `t`. -/
structure SuggestsFields (s : Schema) (t : NamedType) (name : String) (fields : List String) :
    Prop where
  /-- The type does not declare the field. -/
  undeclared : t.field? name = none
  /-- None of the possible types declares it. -/
  unowned : ∀ u ∈ s.possibleTypes t, u.field? name = none
  /-- For a union nothing is suggested. -/
  union : t.kind = .union → fields = []
  /-- Otherwise it is the first five in the ranking of the fields, as they are declared. -/
  similar : t.kind ≠ .union → s.DeclaresFields t t.fieldNames ∧
    fields = suggest name t.fieldNames 5
  /-- Each of them can be selected from the type, and is not the field itself. -/
  repairs : ∀ field ∈ fields, checkField s t field = none ∧ field ≠ name

theorem suggestsTypes_of_possibleOwners (h : s.Built) {types : List String}
    (howners : possibleOwners s t name = types) (hne : types ≠ []) :
    SuggestsTypes s t name types where
  isAbstract := by
    by_contra hconcrete
    rw [h.possibleOwners_eq_filter, Schema.possibleNames_eq_nil hconcrete] at howners
    exact hne howners.symm
  nonempty := hne
  owners := howners.symm.trans (h.possibleOwners_eq_filter t name)
  repairs possible hmem := by
    rw [← howners, h.possibleOwners_eq_filter, List.mem_filter, Option.any_eq_true] at hmem
    obtain ⟨-, u, hu, hfield⟩ := hmem
    exact ⟨u, hu, checkField_of_isSome_field? hfield⟩

/-- Objects and interfaces have fields. -/
theorem NamedType.isSome_fields?_iff :
    t.fields?.isSome ↔ t.isComposite = true ∧ t.kind ≠ .union := by
  rw [fields?, isComposite, kind]
  rcases t.shape with _ | _ | _ | _ | _ | _ <;> simp

/-- The fields of a type are kept in the order in which they are declared. -/
theorem Schema.Built.declaresFields (h : s.Built) (ht : t ∈ s.types.values)
    (hfields : t.fields?.isSome) : s.DeclaresFields t t.fieldNames := by
  refine ⟨h.exists_ofDocuments, fun docs hdocs ↦ ?_⟩
  have hscalar : t.kind ≠ .scalar := by
    intro hkind
    have hcomposite := (NamedType.isSome_fields?_iff.1 hfields).1
    rw [NamedType.isComposite, hkind] at hcomposite
    cases hcomposite
  obtain ⟨p, hp, decl, hdecl, hofDecl⟩ := Schema.exists_ofDecl_of_ofDocuments hdocs ht hscalar
  exact ⟨p, hp, decl, hdecl, (NamedType.name_of_ofDecl hofDecl).symm,
    (NamedType.fieldNames_of_ofDecl hofDecl hfields).symm⟩

theorem suggestsFields_of_possibleOwners (h : s.Built) (ht : t ∈ s.types.values)
    (hcomposite : t.isComposite = true) (hfield : t.field? name = none)
    (howners : possibleOwners s t name = []) :
    SuggestsFields s t name (suggest name t.fieldNames Suggestion.maxCount) where
  undeclared := hfield
  unowned u hu := by
    rw [possibleOwners, List.map_eq_nil_iff, List.filter_eq_nil_iff] at howners
    exact Option.not_isSome_iff_eq_none.1 (howners u hu)
  union hunion := by
    have hfields : t.fields? = none := by
      rw [← Option.not_isSome_iff_eq_none, NamedType.isSome_fields?_iff]
      exact fun hsome ↦ hsome.2 hunion
    rw [NamedType.fieldNames, hfields, Option.elim_none, suggest_nil]
  similar hunion := by
    have hfields : t.fields?.isSome := NamedType.isSome_fields?_iff.2 ⟨hcomposite, hunion⟩
    exact ⟨h.declaresFields ht hfields, rfl⟩
  repairs field hmem := by
    have hdeclared : (t.field? field).isSome :=
      NamedType.mem_fieldNames_iff.1 (Suggestion.mem_of_mem_suggest hmem)
    refine ⟨checkField_of_isSome_field? hdeclared, ?_⟩
    rintro rfl
    rw [hfield] at hdeclared
    cases hdeclared

/-- **Suggestions are repairs.** An error about a field says which field and which type it is about.
If it suggests types, these are all of the possible types that declare the field, and the field can
be selected from each of them. If it suggests fields, then no possible type declares the field; they
are the five most similar of the fields that the type declares, and each can be selected from it. -/
theorem suggestions_of_checkField (h : s.Built) (ht : t ∈ s.types.values) (name : String) :
    (∀ field type types, checkField s t name = some (.onPossibleTypes field type types) →
      field = name ∧ type = t.name ∧ SuggestsTypes s t name types) ∧
    (∀ field type fields, checkField s t name = some (.unknown field type fields) →
      field = name ∧ type = t.name ∧ SuggestsFields s t name fields) := by
  constructor
  · intro field type types hcheck
    obtain ⟨-, -, -, herror⟩ := checkField_eq_some_iff.1 hcheck
    obtain ⟨rfl, rfl, howners, hne⟩ := fieldError_eq_onPossibleTypes_iff.1 herror
    exact ⟨rfl, rfl, suggestsTypes_of_possibleOwners h howners hne⟩
  · intro field type fields hcheck
    obtain ⟨-, hcomposite, hfield, herror⟩ := checkField_eq_some_iff.1 hcheck
    obtain ⟨rfl, rfl, rfl, howners⟩ := fieldError_eq_unknown_iff.1 herror
    exact ⟨rfl, rfl, suggestsFields_of_possibleOwners h ht hcomposite hfield howners⟩

/-- A field that only an implementing type has, and one that is misspelt. -/
theorem suggestions_nodeDeclarations : ∃ s : Schema, s.Built ∧
    ∃ t ∈ s.types.values, t.kind = .interface ∧
      checkField s t "name" = some (.onPossibleTypes "name" "Node" ["User"]) ∧
      SuggestsTypes s t "name" ["User"] ∧
      checkField s t "ids" = some (.unknown "ids" "Node" ["id"]) ∧
      SuggestsFields s t "ids" ["id"] := by
  have h : ∃ s, Schema.ofDocuments [⟨none, nodeDeclarations⟩] = .ok s ∧
      ∃ t ∈ s.types.values, t.kind = .interface ∧
        checkField s t "name" = some (.onPossibleTypes "name" "Node" ["User"]) ∧
        checkField s t "ids" = some (.unknown "ids" "Node" ["id"]) :=
    ⟨_, rfl, by decide +kernel⟩
  obtain ⟨s, hs, t, ht, hkind, hname, hids⟩ := h
  have hbuilt : s.Built := Schema.built_of_ofDocuments hs
  exact ⟨s, hbuilt, t, ht, hkind, hname,
    ((suggestions_of_checkField hbuilt ht "name").1 _ _ _ hname).2.2, hids,
    ((suggestions_of_checkField hbuilt ht "ids").2 _ _ _ hids).2.2⟩

end GraphQLCheck
