import GraphQLCheck.Proofs.Validation.FieldContext
import GraphQLCheck.Proofs.Validation.FieldSites

/-!
# Selecting from an interface, and from what implements it

A type has every field of the interfaces that it declares, so what can be selected from the
interface can be selected from the type. What the field gives back on either is not compared when a
schema is built. So the selections below it can be right on the interface and wrong on the type
(`reportsFrom_keeperDeclarations`).

Whether selections that are right in one context are right in another one is a question about single
steps. A relation between contexts is a `Simulation` if every field that can be selected on the left
can be selected on the right, and leads to related contexts again. Selections stay right along a
simulation (`Simulation.silent`), and where all selections without a condition stay right there is
one (`substitutable_iff`).

For an interface and a type that declares it, the first step is always possible, and the rest is
about what the fields give back (`substitution_of_interface`). A type that refines another one is
the same type, a member of the union, or one that declares the interface. Where the fields of the
implementing types give back types that refine those of the interfaces, and no type declares one of
the introspection fields itself, refinement is a simulation (`simulation_refined`).
-/

namespace GraphQLCheck

/-- What the rule about fields reports about selections in a context. -/
def reportsFrom (s : Schema) (fragments : Fragments) (context : Context)
    (selections : List Selection) : List Diagnostic :=
  let scene : Scene := ⟨s, fragments, Tracker.empty.push context, #[]⟩
  (walkSelections [fieldSelection] selections scene).reported.toList

mutual

/-- The selection is a field or an inline fragment without a condition, and so is all that is below
it. -/
def Selection.isPlain : Selection → Bool
  | .field _ _ selections => arePlain selections
  | .inline head _ selections => head.condition?.isNone && arePlain selections
  | .spread _ => false

/-- All of the selections are plain. -/
def arePlain : List Selection → Bool
  | [] => true
  | selection :: selections => selection.isPlain && arePlain selections

end

section Contexts

variable (s : Schema)

/-- Plain selections that are right in the first context are right in the second one. -/
def Substitutable (context context' : Context) : Prop :=
  ∀ (fragments : Fragments) (selections : List Selection), arePlain selections = true →
    reportsFrom s fragments context selections = [] →
    reportsFrom s fragments context' selections = []

/-- Nothing is wrong with selecting the field in the context. -/
def Selectable (context : Context) (name : String) : Prop :=
  ∀ t ∈ context, checkField s t name = none

/-- A field that can be selected on the left can be selected on the right, and the contexts below it
are related again. -/
def Simulation (R : Context → Context → Prop) : Prop :=
  ∀ ⦃context context'⦄, R context context' → ∀ name, Selectable s context name →
    Selectable s context' name ∧ R (s.fieldContext context name) (s.fieldContext context' name)

/-- Nothing is reported about any of the fields. -/
def Silent (sites : List FieldSite) : Prop := ∀ site ∈ sites, site.diagnostic? s = none

end Contexts

/-! ### What is reported in a context -/

section Reports

variable {s : Schema} {context context' : Context}

theorem reportsFrom_eq (s : Schema) (fragments : Fragments) (context : Context)
    (selections : List Selection) : reportsFrom s fragments context selections =
      (sitesOfAll s context selections).filterMap (FieldSite.diagnostic? s) := by
  have hunswayed : ∀ rule ∈ [fieldSelection], rule.Unswayed := by
    intro rule hrule
    rw [List.mem_singleton.1 hrule]
    exact fieldSelection_unswayed
  have hsites := fieldReports_visitsOfAll s fragments (Tracker.empty.push context) selections
  rw [Tracker.current_push] at hsites
  rw [reportsFrom, walkSelections_eq_after, ← hsites]
  refine (Visit.toList_foldl_hear hunswayed s fragments _ #[]).trans ?_
  rw [List.nil_append]
  exact List.flatMap_congr fun visit _ ↦ List.flatMap_singleton _ _

theorem reportsFrom_eq_nil_iff {fragments : Fragments} {selections : List Selection} :
    reportsFrom s fragments context selections = [] ↔
      Silent s (sitesOfAll s context selections) := by
  rw [reportsFrom_eq, List.filterMap_eq_nil_iff]
  rfl

theorem diagnostic?_eq_none_iff {head : FieldHead} :
    FieldSite.diagnostic? s ⟨head, context⟩ = none ↔ Selectable s context head.name := by
  rcases context with - | t
  · simp [FieldSite.diagnostic?, Selectable]
  · simp [FieldSite.diagnostic?, Selectable]

theorem silent_append {sites sites' : List FieldSite} :
    Silent s (sites ++ sites') ↔ Silent s sites ∧ Silent s sites' :=
  List.forall_mem_append

/-- A field and what is below it. -/
theorem silent_field {head : FieldHead} {span : Span} {selections : List Selection} :
    Silent s (Selection.sites s context (.field head span selections)) ↔
      Selectable s context head.name ∧
        Silent s (sitesOfAll s (s.fieldContext context head.name) selections) := by
  rw [Selection.sites, Silent, List.forall_mem_cons, diagnostic?_eq_none_iff]
  rfl

end Reports

/-! ### Simulations -/

section Simulations

variable {s : Schema} {R : Context → Context → Prop}

mutual

/-- Silence carries over along a simulation, by recursion on the tree: the step of the simulation is
taken at the fields, and below a condition both sides are in the same context. -/
theorem Simulation.silent_sites (hR : Simulation s R) :
    ∀ (selection : Selection) {context context' : Context}, R context context' →
      Silent s (selection.sites s context) → Silent s (selection.sites s context')
  | .field head span selections, context, context', hrel => by
    intro hsilent
    obtain ⟨hselectable, hbelow⟩ := silent_field.1 hsilent
    obtain ⟨hselectable', hrel'⟩ := hR hrel head.name hselectable
    exact silent_field.2 ⟨hselectable', hR.silent selections hrel' hbelow⟩
  | .inline head span selections, context, context', hrel => by
    rw [Selection.sites, Selection.sites]
    rcases head.condition? with - | condition
    · exact hR.silent selections hrel
    · exact id
  | .spread spread, context, context', _ => by
    rw [Selection.sites, Selection.sites]
    exact id

theorem Simulation.silent (hR : Simulation s R) :
    ∀ (selections : List Selection) {context context' : Context}, R context context' →
      Silent s (sitesOfAll s context selections) → Silent s (sitesOfAll s context' selections)
  | [], context, context', _ => by
    rw [sitesOfAll, sitesOfAll]
    exact id
  | selection :: selections, context, context', hrel => by
    rw [sitesOfAll, sitesOfAll, silent_append, silent_append]
    exact And.imp (hR.silent_sites selection hrel) (hR.silent selections hrel)

end

/-- Along a simulation, all selections that are right stay right, also those with conditions. -/
theorem Simulation.reportsFrom_eq_nil (hR : Simulation s R) {context context' : Context}
    (hrel : R context context') {fragments : Fragments} {selections : List Selection}
    (h : reportsFrom s fragments context selections = []) :
    reportsFrom s fragments context' selections = [] :=
  reportsFrom_eq_nil_iff.2 (hR.silent selections hrel (reportsFrom_eq_nil_iff.1 h))

/-- A field with nothing before its selections but its name. -/
def Selection.ofName (name : String) (selections : List Selection) : Selection :=
  .field ⟨default, none, name, [], []⟩ default selections

theorem reportsFrom_ofName_eq_nil_iff {context : Context} {fragments : Fragments} {name : String}
    {selections : List Selection} :
    reportsFrom s fragments context [.ofName name selections] = [] ↔
      Selectable s context name ∧
        reportsFrom s fragments (s.fieldContext context name) selections = [] := by
  rw [reportsFrom_eq_nil_iff, reportsFrom_eq_nil_iff, sitesOfAll, sitesOfAll, List.append_nil]
  exact silent_field

/-- Substitutability is itself a simulation: selections below a field are tried out by selecting the
field with them. -/
theorem simulation_substitutable (s : Schema) : Simulation s (Substitutable s) := by
  intro context context' h name hselectable
  have hstep : ∀ (fragments : Fragments) (selections : List Selection),
      arePlain selections = true →
      reportsFrom s fragments (s.fieldContext context name) selections = [] →
      Selectable s context' name ∧
        reportsFrom s fragments (s.fieldContext context' name) selections = [] := by
    intro fragments selections hplain hbelow
    have hplain' : arePlain [.ofName name selections] = true := by
      simpa [arePlain, Selection.isPlain, Selection.ofName] using hplain
    exact reportsFrom_ofName_eq_nil_iff.1 <| h fragments _ hplain' <|
      reportsFrom_ofName_eq_nil_iff.2 ⟨hselectable, hbelow⟩
  refine ⟨(hstep .empty [] ?_ ?_).1, fun fragments selections hplain hbelow ↦
    (hstep fragments selections hplain hbelow).2⟩
  · rw [arePlain]
  · rw [reportsFrom_eq, sitesOfAll]
    rfl

/-- **Plain selections stay right exactly along simulations.** -/
theorem substitutable_iff {context context' : Context} :
    Substitutable s context context' ↔ ∃ R, Simulation s R ∧ R context context' :=
  ⟨fun h ↦ ⟨Substitutable s, simulation_substitutable s, h⟩,
    fun ⟨_, hR, hrel⟩ _ _ _ hsilent ↦ hR.reportsFrom_eq_nil hrel hsilent⟩

end Simulations

/-! ### Types that refine others -/

/-- The type can stand for another one: it is the same, a member of it if that is a union, or
declares it if that is an interface. -/
def NamedType.Refines (u t : NamedType) : Prop :=
  u = t ∨ u.name ∈ t.memberNames ∨ t.name ∈ u.interfaceNames

instance NamedType.decidableRefines (u t : NamedType) : Decidable (u.Refines t) :=
  inferInstanceAs (Decidable (u = t ∨ u.name ∈ t.memberNames ∨ t.name ∈ u.interfaceNames))

namespace Schema

variable (s : Schema)

/-- What a field of an interface gives back is refined by what the field of that name gives back on
the types that declare the interface. -/
def Covariant : Prop :=
  ∀ i ∈ s.types.values, ∀ t ∈ s.types.values, i.name ∈ t.interfaceNames →
    ∀ fields ∈ i.fields?, ∀ demanded ∈ fields.values, ∀ own ∈ t.field? demanded.name,
      ∀ u ∈ s.returnType? demanded, ∀ v ∈ s.returnType? own, v.Refines u

/-- No type declares a field of introspection, other than the one that gives the name of a type. -/
def Unreserved : Prop :=
  ∀ t ∈ s.types.values, ∀ name ∈ metaFields, name ≠ typenameField → t.field? name = none

instance decidableCovariant : Decidable s.Covariant :=
  inferInstanceAs (Decidable (∀ i ∈ s.types.values, ∀ t ∈ s.types.values,
    i.name ∈ t.interfaceNames → ∀ fields ∈ i.fields?, ∀ demanded ∈ fields.values,
      ∀ own ∈ t.field? demanded.name, ∀ u ∈ s.returnType? demanded, ∀ v ∈ s.returnType? own,
        v.Refines u))

instance decidableUnreserved : Decidable s.Unreserved :=
  inferInstanceAs (Decidable (∀ t ∈ s.types.values, ∀ name ∈ metaFields, name ≠ typenameField →
    t.field? name = none))

end Schema

section Refinement

variable {s : Schema} {t u i : NamedType} {name : String}

theorem NamedType.isComposite_of_mem_interfaceNames {interface : String}
    (h : interface ∈ t.interfaceNames) : t.isComposite = true := by
  rw [interfaceNames, interfaces] at h
  rw [isComposite, kind]
  rcases hshape : t.shape with _ | _ | _ | _ | _ | _ <;> simp_all

theorem Schema.Built.isComposite_of_interface (h : s.Built) (ht : t ∈ s.types.values)
    (hi : i ∈ s.types.values) (hdeclares : i.name ∈ t.interfaceNames) : i.isComposite = true := by
  rw [NamedType.isComposite, h.kind_of_mem_interfaceNames ht hi hdeclares]

theorem NamedType.kind_of_mem_memberNames {member : String} (h : member ∈ t.memberNames) :
    t.kind = .union := by
  rw [memberNames] at h
  rw [kind]
  rcases hshape : t.shape with _ | _ | _ | _ | _ | _ <;> simp_all

/-- A type with the name of a member of a union is composite. -/
theorem Schema.Built.isComposite_of_mem_memberNames (h : s.Built) (ht : t ∈ s.types.values)
    (hu : u ∈ s.types.values) (hmember : u.name ∈ t.memberNames) : u.isComposite = true := by
  rw [← h.map_name_members ht] at hmember
  obtain ⟨ref, href, hname⟩ := List.mem_map.1 hmember
  obtain ⟨m, hm, hkind⟩ := h.exists_member ht href
  rw [hname] at hm
  rw [h.eq_of_type? hu hm] at hkind
  rw [NamedType.isComposite]
  rcases List.mem_pair.1 hkind with hobject | hinterface
  · rw [hobject]
  · rw [hinterface]

theorem selectable_some_iff : Selectable s (some t) name ↔ checkField s t name = none := by
  simp [Selectable]

theorem checkField_eq_none_iff_of_isComposite (h : t.isComposite = true) :
    checkField s t name = none ↔ name ∈ metaFields ∨ ∃ f, t.field? name = some f := by
  rw [checkField_eq_none_iff, h, Option.isSome_iff_exists]
  simp

/-- What can be selected from an interface can be selected from a type that declares it. -/
theorem Schema.Built.checkField_eq_none (h : s.Built) (hi : i ∈ s.types.values)
    (ht : t ∈ s.types.values) (hdeclares : i.name ∈ t.interfaceNames)
    (hname : checkField s i name = none) : checkField s t name = none := by
  have hicomposite := h.isComposite_of_interface ht hi hdeclares
  have htcomposite := NamedType.isComposite_of_mem_interfaceNames hdeclares
  rw [checkField_eq_none_iff_of_isComposite hicomposite] at hname
  rw [checkField_eq_none_iff_of_isComposite htcomposite]
  refine hname.imp_right fun ⟨f, hf⟩ ↦ ?_
  exact h.exists_field?_of_interface ht hi hdeclares hf

/-- On a union nothing but introspection can be selected. -/
theorem mem_metaFields_of_union (hunion : t.kind = .union) (h : checkField s t name = none) :
    name ∈ metaFields := by
  have hcomposite : t.isComposite = true := by rw [NamedType.isComposite, hunion]
  have hfield : t.field? name = none := by
    rw [NamedType.kind] at hunion
    rw [NamedType.field?, NamedType.fields?]
    rcases hshape : t.shape with _ | _ | _ | _ | _ | _ <;> simp_all
  rw [checkField_eq_none_iff_of_isComposite hcomposite, hfield] at h
  simpa using h

/-- On the right nothing is known, or a type of the schema that refines one on the left. -/
def Refined (s : Schema) : Context → Context → Prop
  | some t, some u => t ∈ s.types.values ∧ u ∈ s.types.values ∧ u.Refines t
  | none, some _ => False
  | _, none => True

theorem refined_none (context : Context) : Refined s context none := by
  cases context <;> trivial

/-- The context below a field of a type of the schema refines itself. -/
theorem Schema.Built.refined_fieldContext (h : s.Built) (ht : t ∈ s.types.values) (name : String) :
    Refined s (s.fieldContext (some t) name) (s.fieldContext (some t) name) := by
  rcases hbelow : s.fieldContext (some t) name with - | u
  · exact refined_none none
  · have hu := Dict.mem_values_of_get? (h.type?_of_fieldContext ht hbelow).1
    exact ⟨hu, hu, Or.inl rfl⟩

/-- Below the fields of introspection, two composite types know the same. -/
theorem Schema.Built.refined_metaField (h : s.Built) (hunreserved : s.Unreserved)
    (hu : u ∈ s.types.values) (htcomposite : t.isComposite = true)
    (hucomposite : u.isComposite = true) (hname : name ∈ metaFields) :
    Refined s (s.fieldContext (some t) name) (s.fieldContext (some u) name) := by
  by_cases htypename : name = typenameField
  · have hsame : s.fieldContext (some t) name = s.fieldContext (some u) name := by
      rw [htypename, fieldContext_typename, fieldContext_typename, if_pos htcomposite,
        if_pos hucomposite]
    rw [hsame]
    exact h.refined_fieldContext hu name
  · -- no type declares it, so nothing is known on the right
    rw [fieldContext_of_ne htypename, fieldContext_of_ne htypename,
      hunreserved u hu name hname htypename]
    exact refined_none _

/-- Below a field of an interface, a type that declares the interface knows something that refines
what the interface knows. -/
theorem Schema.Covariant.refined_field (hcovariant : s.Covariant) (h : s.Built)
    (hi : i ∈ s.types.values) (ht : t ∈ s.types.values) (hdeclares : i.name ∈ t.interfaceNames)
    (htypename : name ≠ typenameField) {f : Field} (hf : i.field? name = some f) :
    Refined s (s.fieldContext (some i) name) (s.fieldContext (some t) name) := by
  obtain ⟨own, hown⟩ := h.exists_field?_of_interface ht hi hdeclares hf
  obtain ⟨u, hu, -⟩ := h.exists_returnType?_of_field? hi hf
  obtain ⟨v, hv, -⟩ := h.exists_returnType?_of_field? ht hown
  obtain ⟨fields, hfields, hget⟩ := Option.bind_eq_some_iff.1 hf
  have hname : f.name = name :=
    ((h.byName.shapes i hi).fields hfields).1.name_of_get? hget
  rw [fieldContext_of_ne htypename, fieldContext_of_ne htypename, hf, hown, Option.bind_some,
    Option.bind_some, hu, hv]
  exact ⟨Dict.mem_values_of_get? hu, Dict.mem_values_of_get? hv,
    hcovariant i hi t ht hdeclares fields hfields f (Dict.mem_values_of_get? hget) own
      (hname ▸ hown) u hu v hv⟩

/-- A type that declares an interface follows the interface into every field. -/
theorem Schema.Covariant.refined_interface (hcovariant : s.Covariant) (hunreserved : s.Unreserved)
    (h : s.Built) (hi : i ∈ s.types.values) (ht : t ∈ s.types.values)
    (hdeclares : i.name ∈ t.interfaceNames) (hname : checkField s i name = none) :
    Refined s (s.fieldContext (some i) name) (s.fieldContext (some t) name) := by
  have hicomposite := h.isComposite_of_interface ht hi hdeclares
  have htcomposite := NamedType.isComposite_of_mem_interfaceNames hdeclares
  rw [checkField_eq_none_iff_of_isComposite hicomposite] at hname
  by_cases hmeta : name ∈ metaFields
  · exact h.refined_metaField hunreserved ht hicomposite htcomposite hmeta
  · have htypename : name ≠ typenameField := by
      rintro rfl
      exact hmeta (by decide)
    obtain ⟨f, hf⟩ := hname.resolve_left hmeta
    exact hcovariant.refined_field h hi ht hdeclares htypename hf

/-- **Refinement is a simulation** in a covariant schema in which no type declares a field of
introspection. -/
theorem simulation_refined (h : s.Built) (hcovariant : s.Covariant) (hunreserved : s.Unreserved) :
    Simulation s (Refined s) := by
  rintro (- | t) (- | u) hrel name hselectable
  · exact ⟨hselectable, trivial⟩
  · exact hrel.elim
  · exact ⟨nofun, refined_none _⟩
  · obtain ⟨ht, hu, hrefines⟩ := hrel
    rw [selectable_some_iff] at hselectable ⊢
    rcases hrefines with rfl | hmember | hdeclares
    · exact ⟨hselectable, h.refined_fieldContext hu name⟩
    · -- from a union only introspection can be selected, and that from its members as well
      have hunion := NamedType.kind_of_mem_memberNames hmember
      have htcomposite : t.isComposite = true := by rw [NamedType.isComposite, hunion]
      have hucomposite := h.isComposite_of_mem_memberNames ht hu hmember
      have hmeta := mem_metaFields_of_union hunion hselectable
      exact ⟨checkField_eq_none_iff.2 (Or.inl hmeta),
        h.refined_metaField hunreserved hu htcomposite hucomposite hmeta⟩
    · exact ⟨h.checkField_eq_none ht hu hdeclares hselectable,
        hcovariant.refined_interface hunreserved h ht hu hdeclares hselectable⟩

/-! ### Interfaces and the types that declare them -/

/-- The first step from an interface to a type that declares it is always possible, so that the
selections that stay right depend on the contexts below the fields alone. -/
theorem Schema.Built.substitutable_interface_iff (h : s.Built) (hi : i ∈ s.types.values)
    (ht : t ∈ s.types.values) (hdeclares : i.name ∈ t.interfaceNames) :
    Substitutable s (some i) (some t) ↔ ∃ R, Simulation s R ∧
      ∀ name, checkField s i name = none →
        R (s.fieldContext (some i) name) (s.fieldContext (some t) name) := by
  constructor
  · intro hsubstitutable
    refine ⟨Substitutable s, simulation_substitutable s, fun name hname ↦ ?_⟩
    exact (simulation_substitutable s hsubstitutable name (selectable_some_iff.2 hname)).2
  · rintro ⟨R, hR, hbelow⟩
    -- one more pair makes it a simulation that relates the interface to the type
    have hR' : Simulation s fun context context' ↦
        R context context' ∨ (context = some i ∧ context' = some t) := by
      rintro context context' (hrel | ⟨rfl, rfl⟩) name hselectable
      · obtain ⟨hselectable', hrel'⟩ := hR hrel name hselectable
        exact ⟨hselectable', Or.inl hrel'⟩
      · rw [selectable_some_iff] at hselectable ⊢
        exact ⟨h.checkField_eq_none hi ht hdeclares hselectable,
          Or.inl (hbelow name hselectable)⟩
    exact substitutable_iff.2 ⟨_, hR', Or.inr ⟨rfl, rfl⟩⟩

/-- **Selections from an interface on a type that declares it.** A field that can be selected from
the interface can be selected from the type. All plain selections that are right on the interface
are right on the type exactly when some simulation relates what the fields of the interface lead to
with what they lead to on the type. In a covariant schema in which no type declares a field of
introspection, all selections that are right on the interface are right on the type. -/
theorem substitution_of_interface (h : s.Built) (hi : i ∈ s.types.values)
    (ht : t ∈ s.types.values) (hdeclares : i.name ∈ t.interfaceNames) :
    (∀ name, checkField s i name = none → checkField s t name = none) ∧
    (Substitutable s (some i) (some t) ↔ ∃ R, Simulation s R ∧
      ∀ name, checkField s i name = none →
        R (s.fieldContext (some i) name) (s.fieldContext (some t) name)) ∧
    (s.Covariant → s.Unreserved → ∀ (fragments : Fragments) (selections : List Selection),
      reportsFrom s fragments (some i) selections = [] →
      reportsFrom s fragments (some t) selections = []) := by
  refine ⟨fun name ↦ h.checkField_eq_none hi ht hdeclares,
    h.substitutable_interface_iff hi ht hdeclares, ?_⟩
  intro hcovariant hunreserved fragments selections hsilent
  have hrefined : Refined s (some i) (some t) := ⟨hi, ht, Or.inr (Or.inr hdeclares)⟩
  exact (simulation_refined h hcovariant hunreserved).reportsFrom_eq_nil hrefined hsilent

end Refinement

/-- A schema with an interface whose field gives back another interface, one type that implements
the latter and one that does not, and an object that implements the former with the given type for
its field. -/
def keeperDeclarations (keeper : String) : List Declaration :=
  let field (position : Position) (name type : String) : FieldDecl :=
    ⟨position, none, name, [], .named type⟩
  [.type ⟨⟨1, 1⟩, none, "Query", .object [] [field ⟨2, 3⟩ "pet" "Pet"]⟩,
    .type ⟨⟨4, 1⟩, none, "Pet", .interface [] [field ⟨5, 3⟩ "keeper" "Keeper"]⟩,
    .type ⟨⟨7, 1⟩, none, "Keeper", .interface [] [field ⟨8, 3⟩ "name" "String"]⟩,
    .type ⟨⟨10, 1⟩, none, "Person", .object ["Keeper"]
      [field ⟨11, 3⟩ "name" "String", field ⟨12, 3⟩ "age" "Int"]⟩,
    .type ⟨⟨14, 1⟩, none, "Robot", .object [] [field ⟨15, 3⟩ "model" "String"]⟩,
    .type ⟨⟨17, 1⟩, none, "Dog", .object ["Pet"] [field ⟨18, 3⟩ "keeper" keeper]⟩]

theorem substitution_keeperDeclarations : ∃ s : Schema, s.Built ∧ s.Covariant ∧ s.Unreserved ∧
    ∃ i ∈ s.types.values, ∃ t ∈ s.types.values, i.name = "Pet" ∧ t.name = "Dog" ∧
      i.name ∈ t.interfaceNames ∧
      s.fieldContext (some i) "keeper" ≠ s.fieldContext (some t) "keeper" ∧
      Substitutable s (some i) (some t) := by
  have h : ∃ s : Schema, ∃ d : Draft,
      Draft.empty.load none (keeperDeclarations "Person") = .ok d ∧ d.build = .ok s ∧
      s.Covariant ∧ s.Unreserved ∧ ∃ i ∈ s.types.values, ∃ t ∈ s.types.values,
        i.name = "Pet" ∧ t.name = "Dog" ∧ i.name ∈ t.interfaceNames ∧
        s.fieldContext (some i) "keeper" ≠ s.fieldContext (some t) "keeper" :=
    ⟨_, _, rfl, rfl, by decide +kernel⟩
  obtain ⟨s, d, hd, hs, hcovariant, hunreserved, i, hi, t, ht, hpet, hdog, hdeclares, hne⟩ := h
  have hbuilt : s.Built := ⟨d, .load none (keeperDeclarations "Person") .empty hd, hs⟩
  obtain ⟨-, -, hcarries⟩ := substitution_of_interface hbuilt hi ht hdeclares
  exact ⟨s, hbuilt, hcovariant, hunreserved, i, hi, t, ht, hpet, hdog, hdeclares, hne,
    fun fragments selections _ ↦ hcarries hcovariant hunreserved fragments selections⟩

/-- Below a field that gives back something else on the implementing type, a selection is right on
the interface and wrong on the type. -/
theorem reportsFrom_keeperDeclarations : ∃ s : Schema, s.Built ∧
    ∃ i ∈ s.types.values, ∃ t ∈ s.types.values, i.kind = .interface ∧ t.kind = .object ∧
      i.name ∈ t.interfaceNames ∧ ∃ selections, arePlain selections = true ∧
        reportsFrom s .empty (some i) selections = [] ∧
        reportsFrom s .empty (some t) selections ≠ [] := by
  have h : ∃ s : Schema, ∃ d : Draft,
      Draft.empty.load none (keeperDeclarations "Robot") = .ok d ∧ d.build = .ok s ∧
      ∃ i ∈ s.types.values, ∃ t ∈ s.types.values, i.kind = .interface ∧ t.kind = .object ∧
        i.name ∈ t.interfaceNames ∧
        reportsFrom s .empty (some i) [.ofName "keeper" [.ofName "name" []]] = [] ∧
        reportsFrom s .empty (some t) [.ofName "keeper" [.ofName "name" []]] ≠ [] :=
    ⟨_, _, rfl, rfl, by decide +kernel⟩
  obtain ⟨s, d, hd, hs, i, hi, t, ht, hinterface, hobject, hdeclares, hsilent, hreported⟩ := h
  have hbuilt : s.Built := ⟨d, .load none (keeperDeclarations "Robot") .empty hd, hs⟩
  exact ⟨s, hbuilt, i, hi, t, ht, hinterface, hobject, hdeclares, _, by decide, hsilent, hreported⟩

end GraphQLCheck
