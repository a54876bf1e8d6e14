import GraphQLCheck.Proofs.Schema.Lookup
import GraphQLCheck.Proofs.Schema.References

/-!
# What can be given

A parameter stands in one of two places: a field takes it, or an input object holds it as one of its
own fields (`NamedType.parameters`). In either place its type should be there and be one of what can
be given, an enum, an input object or a scalar (`Schema.Takes`).

Building sees to that for what fields take (`Built.takes_of_ne`). It does not look into input
objects. What they hold can be replaced by anything at all that can be declared, and a schema that
has been built stays one (`Built.refill`): the declarations with the new contents load where the old
ones did (`Draft.Reachable.refill`), and since the types look alike, they build to the schema with
the new contents (`Draft.build_refill`). So a field of an input object can refer to a type that is
not there, and to one that can only be answered (`parameters_filterDeclarations`).
-/

namespace GraphQLCheck

/-! ### Parameters -/

/-- The parameters of a type: those that its fields take, or those that an input object holds. -/
def NamedType.parameters (t : NamedType) : List Parameter :=
  match t.shape with
  | .interface fields _ | .object fields _ => fields.values.flatMap fun f ↦ f.parameters.values
  | .input fields => fields.values
  | .enum _ | .scalar | .union _ => []

/-- The type of a parameter is there, and it is one of what can be given. -/
def Schema.Takes (s : Schema) (p : Parameter) : Prop :=
  ∃ u ∈ s.type? p.annotation.innermost.name, u.kind ∈ inputKinds

instance Schema.decidableTakes (s : Schema) : DecidablePred s.Takes := fun p ↦
  inferInstanceAs (Decidable (∃ u ∈ s.type? p.annotation.innermost.name, u.kind ∈ inputKinds))

/-- Outside of input objects, every parameter is one that a field takes. -/
theorem NamedType.exists_field_of_mem_parameters {t : NamedType} (h : t.kind ≠ .inputObject)
    {p : Parameter} (hp : p ∈ t.parameters) :
    ∃ fields, t.fields? = some fields ∧ ∃ f ∈ fields.values, p ∈ f.parameters.values := by
  rw [parameters] at hp
  rw [kind] at h
  rw [fields?]
  rcases hshape : t.shape with _ | _ | ⟨fields, _⟩ | ⟨fields, _⟩ | _ | _ <;> rw [hshape] at hp h
  case interface | object => exact ⟨fields, rfl, List.mem_flatMap.1 hp⟩
  case input => exact absurd rfl h
  all_goals exact absurd hp List.not_mem_nil

/-- What a field of a built schema takes can be given. -/
theorem Schema.Built.takes_of_ne {s : Schema} (h : s.Built) {t : NamedType}
    (ht : t ∈ s.types.values) (hkind : t.kind ≠ .inputObject) {p : Parameter}
    (hp : p ∈ t.parameters) : s.Takes p := by
  obtain ⟨fields, hfields, f, hf, hp⟩ := NamedType.exists_field_of_mem_parameters hkind hp
  have hsound := h.not_broken (mem_spots ht (parameter_mem_spots hfields hf hp))
  obtain ⟨u, hu, hinput⟩ := not_amiss_iff.1 hsound
  exact ⟨u, hu, not_not.1 hinput⟩

/-! ### Other contents of input objects -/

/-- The file of a location, if it has one. -/
def Location.file? : Location → Option String
  | .builtIn => none
  | .written file _ => file

section Refill

variable (contents : String → List ParameterDecl)

/-- The type, where an input object holds what is given for its name, declared in its own file. -/
def NamedType.refill (t : NamedType) : NamedType :=
  match t.shape with
  | .input _ => { t with shape := .input (Parameter.ofDecls t.location.file? (contents t.name)) }
  | _ => t

/-- The declaration, where an input object declares what is given for its name. -/
def TypeDecl.refill (decl : TypeDecl) : TypeDecl :=
  match decl.body with
  | .input _ => { decl with body := .input (contents decl.name) }
  | _ => decl

/-- The declaration, with other contents if an input object is declared. -/
def Declaration.refill : Declaration → Declaration
  | .type decl => .type (decl.refill contents)
  | .schema decl => .schema decl
  | .extension name => .extension name
  | .directive name => .directive name

/-- The draft with other contents of its input objects. -/
def Draft.refill (d : Draft) : Draft := { d with types := d.types.map (NamedType.refill contents) }

/-- The schema with other contents of its input objects. -/
def Schema.refill (s : Schema) : Schema :=
  { s with types := s.types.map (NamedType.refill contents) }

@[simp] theorem NamedType.name_refill (t : NamedType) : (t.refill contents).name = t.name := by
  rw [refill]
  split <;> rfl

/-- As building sees them, types are not changed. -/
theorem NamedType.bare_refill (t : NamedType) : (t.refill contents).bare = t.bare := by
  rw [refill]
  split
  · rename_i hshape
    simp only [bare, hshape]
  · rfl

/-! ### Loading other contents -/

/-- The declaration with other contents declares the type with other contents. -/
theorem NamedType.ofDecl_refill {file : Option String} {decl : TypeDecl} {t : NamedType}
    (h : ofDecl file decl = .ok t) :
    ofDecl file (decl.refill contents) = .ok (t.refill contents) := by
  obtain ⟨shape, hshape, ht⟩ := bind_eq_ok_iff.1 h
  obtain rfl := Except.ok.inj ht
  rw [TypeDecl.refill]
  rw [Shape.ofDecl] at hshape
  cases hbody : decl.body <;> rw [hbody] at hshape
  case input fields =>
    obtain rfl := Except.ok.inj hshape
    rfl
  case interface interfaces fields | object interfaces fields =>
    -- these are not changed, and neither is what they declare
    obtain ⟨fields', -, hshape'⟩ := bind_eq_ok_iff.1 hshape
    obtain rfl := Except.ok.inj hshape'
    exact h
  all_goals
    obtain rfl := Except.ok.inj hshape
    exact h

namespace Draft

variable {d d' : Draft} {file : Option String}

theorem root?_refill (d : Draft) (operation : OperationKind) :
    (d.refill contents).root? operation = d.root? operation := by
  cases operation <;> rfl

theorem refill_setRoot (d : Draft) (operation : OperationKind) (root : RootDecl) :
    (d.setRoot operation root).refill contents = (d.refill contents).setRoot operation root := by
  cases operation <;> rfl

theorem addRoot_refill {location : Location} {entry : OperationKind × Option String}
    (h : d.addRoot location entry = .ok d') :
    (d.refill contents).addRoot location entry = .ok (d'.refill contents) := by
  obtain ⟨operation, type?⟩ := entry
  cases type? with
  | none =>
    obtain rfl := Except.ok.inj h
    rfl
  | some type =>
    simp only [addRoot, root?_refill] at h ⊢
    split at h
    · cases h
    · rw [← Except.ok.inj h, refill_setRoot]

theorem addTypeDecl_refill {decl : TypeDecl} (h : d.addTypeDecl file decl = .ok d') :
    (d.refill contents).addTypeDecl file (decl.refill contents) = .ok (d'.refill contents) := by
  obtain ⟨t, ht, hreserved, hnew, rfl⟩ := addTypeDecl_eq_ok_iff.1 h
  refine addTypeDecl_eq_ok_iff.2 ⟨t.refill contents, NamedType.ofDecl_refill contents ht, ?_⟩
  rw [NamedType.name_refill]
  refine ⟨hreserved, ?_, ?_⟩
  · rw [refill, Dict.get?_map, hnew]
    rfl
  · rw [refill, Dict.map_insert]
    rfl

/-- **One step.** A declaration that is added can be added with other contents. -/
theorem add_refill {decl : Declaration} (h : d.add file decl = .ok d') :
    (d.refill contents).add file (decl.refill contents) = .ok (d'.refill contents) := by
  cases decl with
  | schema decl =>
    have hrun := foldlM_map_eq_ok (addRoot_refill contents) (ψ := id) h
    rwa [List.map_id] at hrun
  | type decl => exact addTypeDecl_refill contents h
  | extension name =>
    obtain rfl := Except.ok.inj h
    rfl
  | directive name =>
    obtain rfl := Except.ok.inj h
    rfl

/-- **A whole run.** Declarations that are loaded can be loaded with other contents. -/
theorem Reachable.refill (hd : d.Reachable) : (d.refill contents).Reachable := by
  induction hd with
  | empty => exact .empty
  | load file declarations _ h ih =>
    exact .load file (declarations.map (Declaration.refill contents)) ih
      (foldlM_map_eq_ok (add_refill contents) h)

/-! ### Building with other contents -/

theorem lookAlike_refill (types : Dict NamedType) :
    LookAlike (types.map (NamedType.refill contents)) types := fun name ↦ by
  rw [Dict.get?_map, Option.map_map]
  congr 1
  exact funext (NamedType.bare_refill contents)

theorem map_bare_refill (types : Dict NamedType) :
    (types.map (NamedType.refill contents)).values.map NamedType.bare =
      types.values.map NamedType.bare := by
  rw [Dict.values_map, List.map_map]
  exact List.map_congr_left fun t _ ↦ t.bare_refill contents

/-- A draft with other contents builds to the schema with other contents. -/
theorem build_refill {s : Schema} (h : d.build = .ok s) :
    (d.refill contents).build = .ok (s.refill contents) := by
  obtain ⟨hnil, query, mutation, subscription, hquery, hmutation, hsubscription, rfl⟩ :=
    build_eq_ok_iff.1 h
  have halike := lookAlike_refill contents d.types
  have hbare := map_bare_refill contents d.types
  refine build_eq_ok_iff.2 ⟨?_, query, mutation, subscription, ?_, ?_, ?_, ?_⟩
  · rw [violations_eq_flatMap_bare] at hnil
    rwa [violations_eq_flatMap_bare, refill, halike.violations_eq, hbare]
  · exact (halike.resolveRoot_eq .query d.query?).trans hquery
  · exact (halike.resolveRoot_eq .mutation d.mutation?).trans hmutation
  · exact (halike.resolveRoot_eq .subscription d.subscription?).trans hsubscription
  · rw [possibleTypes_eq_foldl_bare d.types, ← hbare, ← possibleTypes_eq_foldl_bare]
    rfl

end Draft

end Refill

/-- The input objects of a schema with other contents hold what is given for their names. -/
theorem Schema.parameters_of_mem_refill {s : Schema} {contents : String → List ParameterDecl}
    {t : NamedType} (ht : t ∈ (s.refill contents).types.values) (hkind : t.kind = .inputObject) :
    t.parameters = (Parameter.ofDecls t.location.file? (contents t.name)).values := by
  rw [refill, Dict.values_map] at ht
  obtain ⟨u, -, rfl⟩ := List.mem_map.1 ht
  have hinput : u.kind = .inputObject := by
    rw [← hkind]
    exact NamedType.kind_of_bare_eq (u.bare_refill contents).symm
  obtain ⟨fields, hshape⟩ := NamedType.exists_input_of_kind hinput
  simp only [NamedType.refill, hshape, NamedType.parameters]

/-- A built schema stays one, whatever its input objects hold. -/
theorem Schema.Built.refill {s : Schema} (h : s.Built) (contents : String → List ParameterDecl) :
    (s.refill contents).Built := by
  obtain ⟨d, hd, hs⟩ := h
  exact ⟨d.refill contents, hd.refill contents, Draft.build_refill contents hs⟩

/-- **What can be given.** In a built schema, the type of what a field takes is there and can be
given. What input objects hold is not looked at: with whatever other contents, the schema is a built
one as well, whose input objects hold exactly these. -/
theorem parameters_of_built {s : Schema} (h : s.Built) :
    (∀ t ∈ s.types.values, t.kind ≠ .inputObject → ∀ p ∈ t.parameters, s.Takes p) ∧
    ∀ contents : String → List ParameterDecl, (s.refill contents).Built ∧
      ∀ t ∈ (s.refill contents).types.values, t.kind = .inputObject →
        t.parameters = (Parameter.ofDecls t.location.file? (contents t.name)).values := by
  refine ⟨fun t ht hkind p hp ↦ h.takes_of_ne ht hkind hp, fun contents ↦ ⟨h.refill contents, ?_⟩⟩
  exact fun t ht hkind ↦ Schema.parameters_of_mem_refill ht hkind

/-- Two fields of an input object: the type of one is not there, and that of the other can only be
answered. -/
def unfitContents : List ParameterDecl :=
  [⟨⟨5, 3⟩, none, "owner", .named "Ghost", none⟩, ⟨⟨6, 3⟩, none, "root", .named "Query", none⟩]

/-- A field that takes an input object, which has the given fields. -/
def filterDeclarations (contents : List ParameterDecl) : List Declaration :=
  [.type ⟨⟨1, 1⟩, none, "Query", .object [] [⟨⟨2, 3⟩, none, "find",
      [⟨⟨2, 8⟩, none, "filter", .named "Filter", none⟩], .named "String"⟩]⟩,
    .type ⟨⟨4, 1⟩, none, "Filter", .input contents⟩]

theorem parameters_refill_filterDeclarations : ∃ s : Schema, s.Built ∧
    (∃ t ∈ s.types.values, t.kind = .object ∧ ∃ p ∈ t.parameters, p.name = "filter" ∧ s.Takes p) ∧
    (s.refill fun _ ↦ unfitContents).Built ∧
    ∃ t ∈ (s.refill fun _ ↦ unfitContents).types.values, t.kind = .inputObject ∧
      t.parameters = (Parameter.ofDecls none unfitContents).values := by
  have h : ∃ s : Schema, ∃ d : Draft,
      Draft.empty.load none (filterDeclarations []) = .ok d ∧ d.build = .ok s ∧
      (∃ t ∈ s.types.values, t.kind = .object ∧ ∃ p ∈ t.parameters, p.name = "filter") ∧
      ∃ t ∈ (s.refill fun _ ↦ unfitContents).types.values,
        t.kind = .inputObject ∧ t.location.file? = none := ⟨_, _, rfl, rfl, by decide +kernel⟩
  obtain ⟨s, d, hd, hs, ⟨t, ht, hobject, p, hp, hname⟩, u, hu, hinput, hfile⟩ := h
  have hbuilt : s.Built := ⟨d, .load none (filterDeclarations []) .empty hd, hs⟩
  obtain ⟨htakes, hrefill⟩ := parameters_of_built hbuilt
  obtain ⟨hbuilt', hcontents⟩ := hrefill fun _ ↦ unfitContents
  have hkind : t.kind ≠ .inputObject := by
    rw [hobject]
    decide
  exact ⟨s, hbuilt, ⟨t, ht, hobject, p, hp, hname, htakes t ht hkind p hp⟩, hbuilt', u, hu, hinput,
    hfile ▸ hcontents u hu hinput⟩

/-- A built schema with an input object, of whose fields none has a type that can be given. -/
theorem parameters_filterDeclarations : ∃ s : Schema, s.Built ∧ ∃ t ∈ s.types.values,
    t.kind = .inputObject ∧ t.parameters.map Parameter.name = ["owner", "root"] ∧
    s.type? "Ghost" = none ∧ ∀ p ∈ t.parameters, ¬ s.Takes p := by
  have h : ∃ s : Schema, ∃ d : Draft,
      Draft.empty.load none (filterDeclarations unfitContents) = .ok d ∧ d.build = .ok s ∧
      ∃ t ∈ s.types.values, t.kind = .inputObject ∧
        t.parameters.map Parameter.name = ["owner", "root"] ∧
        s.type? "Ghost" = none ∧ ∀ p ∈ t.parameters, ¬ s.Takes p :=
    ⟨_, _, rfl, rfl, by decide +kernel⟩
  obtain ⟨s, d, hd, hs, ht⟩ := h
  exact ⟨s, ⟨d, .load none (filterDeclarations unfitContents) .empty hd, hs⟩, ht⟩

end GraphQLCheck
