import GraphQLCheck.Proofs.Schema.Faults
import GraphQLCheck.Proofs.Schema.PossibleTypes

/-!
# What a built schema refers to

Building a schema looks at every spot once, so in a built schema no spot is broken
(`Built.not_broken`). Read spot by spot this says what the references of a type resolve to: a field
gives back something (`Built.exists_returnType?`), a declared interface is one
(`Built.exists_interface`) and the type has its fields (`Built.exists_field?_of_interface`), a
member of a union is an object or an interface (`Built.exists_member`). The root types are found
when the schema is built and stay where they are (`Built.exists_rootType?`).

The index of possible types then has no name in it that is not a type's: the names are those of
objects, or those of the members of a union (`Built.type?_of_mem_listAt`). So the functions that
leave out what does not resolve leave nothing out.
-/

namespace GraphQLCheck

/-! ### The spots of a type -/

section Spots

variable {types : Dict NamedType} {t : NamedType}

/-- The spots of a type of any kind: those of its fields, of its interfaces and of its members. -/
theorem NamedType.spots_eq (types : Dict NamedType) (t : NamedType) : t.spots types =
    (t.fields?.elim [] Dict.values).flatMap t.fieldSpots ++
      t.interfaces.flatMap (t.interfaceSpots types) ++ t.members.map (.member t) := by
  rw [spots, fields?, interfaces, members]
  rcases t.shape with _ | _ | _ | _ | _ | _ <;> simp

theorem mem_spots (ht : t ∈ types.values) {spot : Spot} (h : spot ∈ t.spots types) :
    spot ∈ spots types :=
  List.mem_flatMap.2 ⟨t, ht, h⟩

theorem field_mem_spots {fields : Dict Field} (hfields : t.fields? = some fields) {f : Field}
    (hf : f ∈ fields.values) : Spot.field t f ∈ t.spots types := by
  have hspot : Spot.field t f ∈ fields.values.flatMap t.fieldSpots :=
    List.mem_flatMap.2 ⟨f, hf, List.mem_cons_self⟩
  rw [NamedType.spots_eq, hfields]
  exact List.mem_append_left _ (List.mem_append_left _ hspot)

theorem parameter_mem_spots {fields : Dict Field} (hfields : t.fields? = some fields) {f : Field}
    (hf : f ∈ fields.values) {p : Parameter} (hp : p ∈ f.parameters.values) :
    Spot.parameter p ∈ t.spots types := by
  have hspot : Spot.parameter p ∈ fields.values.flatMap t.fieldSpots :=
    List.mem_flatMap.2 ⟨f, hf, List.mem_cons_of_mem _ (List.mem_map_of_mem hp)⟩
  rw [NamedType.spots_eq, hfields]
  exact List.mem_append_left _ (List.mem_append_left _ hspot)

theorem interface_mem_spots {ref : TypeRef} (href : ref ∈ t.interfaces) :
    Spot.interface t ref ∈ t.spots types := by
  have hspot : Spot.interface t ref ∈ t.interfaces.flatMap (t.interfaceSpots types) :=
    List.mem_flatMap.2 ⟨ref, href, List.mem_cons_self⟩
  rw [NamedType.spots_eq]
  exact List.mem_append_left _ (List.mem_append_right _ hspot)

/-- An interface demands all of its fields. -/
theorem mem_demandedFields {i : NamedType} {interface : String}
    (hi : types.get? interface = some i) (hkind : i.kind = .interface) {name : String} {f : Field}
    (hf : i.field? name = some f) : (name, f) ∈ demandedFields types interface := by
  rw [NamedType.kind] at hkind
  rw [NamedType.field?, NamedType.fields?] at hf
  rw [demandedFields, hi, Option.map_some]
  rcases hshape : i.shape with _ | _ | _ | _ | _ | _
  case interface => exact Dict.get?_eq_some_iff.1 (by simpa [hshape] using hf)
  all_goals simp [hshape] at hkind

theorem demandedField_mem_spots {ref : TypeRef} (href : ref ∈ t.interfaces)
    {demanded : String × Field} (hdemanded : demanded ∈ demandedFields types ref.name) :
    Spot.demandedField t ref.name demanded.1 ∈ t.spots types := by
  have hspot : Spot.demandedField t ref.name demanded.1 ∈ t.interfaceSpots types ref :=
    List.mem_cons_of_mem _ (List.mem_flatMap.2 ⟨demanded, hdemanded, List.mem_cons_self⟩)
  rw [NamedType.spots_eq]
  exact List.mem_append_left _
    (List.mem_append_right _ (List.mem_flatMap.2 ⟨ref, href, hspot⟩))

theorem member_mem_spots {ref : TypeRef} (href : ref ∈ t.members) :
    Spot.member t ref ∈ t.spots types := by
  rw [NamedType.spots_eq]
  exact List.mem_append_right _ (List.mem_map_of_mem href)

end Spots

/-- A root type that is found is there, and it is an object. -/
theorem object_of_resolveRoot {types : Dict NamedType} {operation : OperationKind}
    {root? : Option RootDecl} {ref : TypeRef}
    (h : resolveRoot types operation root? = .ok (some ref)) :
    ∃ t, types.get? ref.name = some t ∧ t.kind = .object := by
  rcases root? with - | root
  · rw [resolveRoot] at h
    rcases ht : types.get? operation.conventionalRoot with - | t
    · simp [ht] at h
    · by_cases hkind : t.kind = .object
      · simp only [ht, if_pos hkind, Except.ok.injEq, Option.some.injEq] at h
        exact ⟨t, h ▸ ht, hkind⟩
      · simp [ht, hkind] at h
  · rw [resolveRoot] at h
    rcases ht : types.get? root.type with - | t
    · simp [ht] at h
    · by_cases hkind : t.kind = .object
      · simp only [ht, if_pos hkind, Except.ok.injEq, Option.some.injEq] at h
        exact ⟨t, h ▸ ht, hkind⟩
      · simp [ht, hkind] at h

namespace Schema

variable {s : Schema}

/-! ### References -/

/-- In a built schema no spot is broken. -/
theorem Built.not_broken (h : s.Built) {spot : Spot} (hspot : spot ∈ spots s.types) :
    ¬ spot.Broken s.types := by
  obtain ⟨d, hd, hs⟩ := h
  obtain ⟨hnil, _, _, _, -, -, -, rfl⟩ := Draft.build_eq_ok_iff.1 hs
  exact (violations_eq_nil_iff hd.byName).1 hnil spot hspot

namespace Built

variable {t : NamedType}

/-- A type of the schema is the one that its name leads to. -/
theorem eq_of_type? (h : s.Built) (ht : t ∈ s.types.values) {u : NamedType}
    (hu : s.type? t.name = some u) : u = t :=
  Option.some.inj (hu.symm.trans (h.byName.names.get?_of_mem ht))

/-- The type of a field is there, and it can be answered. -/
theorem exists_returnType? (h : s.Built) (ht : t ∈ s.types.values) {fields : Dict Field}
    (hfields : t.fields? = some fields) {f : Field} (hf : f ∈ fields.values) :
    ∃ u, s.returnType? f = some u ∧ u.kind ≠ .inputObject :=
  not_amiss_iff.1 (h.not_broken (mem_spots ht (field_mem_spots hfields hf)))

/-- The type of a field bears the name that stands innermost in the annotation of the field. -/
theorem name_of_returnType? (h : s.Built) {f : Field} {u : NamedType}
    (hu : s.returnType? f = some u) : u.name = f.annotation.innermost.name :=
  h.byName.names.name_of_get? hu

/-- A type that is declared to be implemented is there, and it is an interface. -/
theorem exists_interface (h : s.Built) (ht : t ∈ s.types.values) {ref : TypeRef}
    (href : ref ∈ t.interfaces) : ∃ i, s.type? ref.name = some i ∧ i.kind = .interface := by
  obtain ⟨i, hi, hkind⟩ := not_amiss_iff.1 (h.not_broken (mem_spots ht (interface_mem_spots href)))
  exact ⟨i, hi, not_not.1 hkind⟩

theorem kind_of_mem_interfaceNames (h : s.Built) (ht : t ∈ s.types.values) {i : NamedType}
    (hi : i ∈ s.types.values) (hdeclares : i.name ∈ t.interfaceNames) : i.kind = .interface := by
  obtain ⟨ref, href, hname⟩ := List.mem_map.1 hdeclares
  obtain ⟨i', hi', hinterface⟩ := h.exists_interface ht href
  rw [hname] at hi'
  exact h.eq_of_type? hi hi' ▸ hinterface

/-- A type has every field of the interfaces that it declares. -/
theorem exists_field?_of_interface (h : s.Built) (ht : t ∈ s.types.values) {i : NamedType}
    (hi : i ∈ s.types.values) (hdeclares : i.name ∈ t.interfaceNames) {name : String} {f : Field}
    (hf : i.field? name = some f) : ∃ own, t.field? name = some own := by
  obtain ⟨ref, href, hname⟩ := List.mem_map.1 hdeclares
  have hget : s.types.get? ref.name = some i := hname ▸ h.byName.names.get?_of_mem hi
  have hdemanded : (name, f) ∈ demandedFields s.types ref.name :=
    mem_demandedFields hget (h.kind_of_mem_interfaceNames ht hi hdeclares) hf
  have hfound := h.not_broken (mem_spots ht (demandedField_mem_spots href hdemanded))
  exact Option.ne_none_iff_exists'.1 hfound

/-- A member of a union is there, and it is an object or an interface. -/
theorem exists_member (h : s.Built) (ht : t ∈ s.types.values) {ref : TypeRef}
    (href : ref ∈ t.members) : ∃ m, s.type? ref.name = some m ∧ m.kind ∈ memberKinds := by
  obtain ⟨m, hm, hkind⟩ := not_amiss_iff.1 (h.not_broken (mem_spots ht (member_mem_spots href)))
  exact ⟨m, hm, not_not.1 hkind⟩

/-- Types that are all found have the names that they are looked up by. -/
theorem map_name_filterMap (h : s.Built) {α : Type} {l : List α} {key : α → String}
    (hl : ∀ a ∈ l, ∃ t, s.type? (key a) = some t) :
    (l.filterMap fun a ↦ s.type? (key a)).map NamedType.name = l.map key := by
  induction l with
  | nil => rfl
  | cons a l ih =>
    obtain ⟨t, ht⟩ := hl a List.mem_cons_self
    have hname : t.name = key a := h.byName.names.name_of_get? ht
    simp only [List.filterMap_cons, ht, List.map_cons, hname,
      ih fun b hb ↦ hl b (List.mem_cons_of_mem a hb)]

theorem map_name_interfacesOf (h : s.Built) (ht : t ∈ s.types.values) :
    (s.interfacesOf t).map NamedType.name = t.interfaceNames := by
  -- all that is found are interfaces, so leaving out other kinds leaves out nothing
  have hkind : ∀ i ∈ t.interfaces.filterMap fun ref ↦ s.type? ref.name,
      (i.kind == .interface) = true := by
    intro i hi
    obtain ⟨ref, href, hfound⟩ := List.mem_filterMap.1 hi
    obtain ⟨i', hi', hinterface⟩ := h.exists_interface ht href
    rw [Option.some.inj (hfound.symm.trans hi'), beq_iff_eq]
    exact hinterface
  rw [interfacesOf, List.filter_eq_self.2 hkind, NamedType.interfaceNames]
  refine h.map_name_filterMap fun ref href ↦ ?_
  obtain ⟨i, hi, -⟩ := h.exists_interface ht href
  exact ⟨i, hi⟩

/-- The members of a union stand under the names that they refer to. -/
theorem map_name_members (h : s.Built) (ht : t ∈ s.types.values) :
    t.members.map TypeRef.name = t.memberNames := by
  have hnames := h.byName.shapes t ht
  rw [NamedType.members, NamedType.memberNames]
  rcases hshape : t.shape with _ | _ | _ | _ | _ | members
  case union =>
    rw [hshape] at hnames
    exact Dict.ByName.map_values hnames
  all_goals rfl

theorem map_name_membersOf (h : s.Built) (ht : t ∈ s.types.values) :
    (s.membersOf t).map NamedType.name = t.memberNames := by
  rw [← h.map_name_members ht, membersOf]
  refine h.map_name_filterMap fun ref href ↦ ?_
  obtain ⟨m, hm, -⟩ := h.exists_member ht href
  exact ⟨m, hm⟩

/-! ### Root types -/

/-- The root type that a schema has for an operation is there, and it is an object. -/
theorem exists_rootType? (h : s.Built) {operation : OperationKind} {ref : TypeRef}
    (href : s.rootRef? operation = some ref) :
    ∃ t, s.rootType? operation = some t ∧ t.kind = .object := by
  obtain ⟨d, -, hs⟩ := h
  obtain ⟨-, query, mutation, subscription, hquery, hmutation, hsubscription, rfl⟩ :=
    Draft.build_eq_ok_iff.1 hs
  have hroot : resolveRoot d.types operation (d.root? operation) = .ok (some ref) := by
    cases operation with
    | query => exact href ▸ hquery
    | mutation => exact href ▸ hmutation
    | subscription => exact href ▸ hsubscription
  obtain ⟨t, ht, hkind⟩ := object_of_resolveRoot hroot
  refine ⟨t, ?_, hkind⟩
  rw [Schema.rootType?, href, Option.bind_some, object?, type?, ht]
  simp [hkind]

theorem isSome_rootType? (h : s.Built) (operation : OperationKind) :
    (s.rootType? operation).isSome = (s.rootRef? operation).isSome := by
  rcases href : s.rootRef? operation with - | ref
  · rw [Schema.rootType?, href]
    rfl
  · obtain ⟨t, ht, -⟩ := h.exists_rootType? href
    rw [ht]
    rfl

/-! ### Possible types -/

theorem possible_eq (h : s.Built) : s.possible = GraphQLCheck.possibleTypes s.types := by
  obtain ⟨d, -, hs⟩ := h
  obtain ⟨-, _, _, _, -, -, -, rfl⟩ := Draft.build_eq_ok_iff.1 hs
  rfl

/-- No object implements a union. -/
theorem name_not_mem_interfaceNames (h : s.Built) {u : NamedType} (hu : u ∈ s.types.values)
    (hkind : u.kind ≠ .interface) (ht : t ∈ s.types.values) : u.name ∉ t.interfaceNames :=
  fun hmem ↦ hkind (h.kind_of_mem_interfaceNames ht hu hmem)

/-- The possible types of a union are its members. -/
theorem listAt_union (h : s.Built) (ht : t ∈ s.types.values) (hkind : t.kind = .union) :
    s.possible.listAt t.name = t.memberNames := by
  have hne : t.kind ≠ .interface := by
    rw [hkind]
    decide
  rw [h.possible_eq]
  exact listAt_possibleTypes_union h.byName.names ht hkind fun u hu _ ↦
    h.name_not_mem_interfaceNames ht hne hu

/-- The possible types under a name that is not a union's are the objects that declare it. -/
theorem listAt_of_not_union (h : s.Built) {name : String}
    (hname : ∀ t ∈ s.types.values, t.name = name → t.kind ≠ .union) :
    s.possible.listAt name = s.types.values.flatMap (NamedType.offers name) := by
  rw [h.possible_eq]
  exact listAt_possibleTypes hname

theorem listAt_interface (h : s.Built) (ht : t ∈ s.types.values) (hkind : t.kind = .interface) :
    s.possible.listAt t.name = s.types.values.flatMap (NamedType.offers t.name) := by
  refine h.listAt_of_not_union fun u hu hname hunion ↦ ?_
  rw [h.byName.names.eq_of_name_eq hu ht hname, hkind] at hunion
  exact nomatch hunion

theorem possibleNames_of_interface (h : s.Built) (ht : t ∈ s.types.values)
    (hkind : t.kind = .interface) :
    s.possibleNames t = s.types.values.flatMap (NamedType.offers t.name) := by
  have habstract : t.isAbstract = true := by rw [NamedType.isAbstract, hkind]
  rw [possibleNames, if_pos habstract]
  exact h.listAt_interface ht hkind

theorem possibleNames_of_union (h : s.Built) (ht : t ∈ s.types.values) (hkind : t.kind = .union) :
    s.possibleNames t = t.memberNames := by
  have habstract : t.isAbstract = true := by rw [NamedType.isAbstract, hkind]
  rw [possibleNames, if_pos habstract]
  exact h.listAt_union ht hkind

/-- Every name in the index is the name of a type. -/
theorem type?_of_mem_listAt (h : s.Built) {name possible : String}
    (hmem : possible ∈ s.possible.listAt name) : ∃ t, s.type? possible = some t := by
  -- the name is a union's and has the members under it, or it is not and has objects under it
  by_cases hunion : ∃ u ∈ s.types.values, u.name = name ∧ u.kind = .union
  · obtain ⟨u, hu, rfl, hkind⟩ := hunion
    rw [h.listAt_union hu hkind, ← h.map_name_members hu] at hmem
    obtain ⟨ref, href, rfl⟩ := List.mem_map.1 hmem
    obtain ⟨m, hm, -⟩ := h.exists_member hu href
    exact ⟨m, hm⟩
  · have hname : ∀ t ∈ s.types.values, t.name = name → t.kind ≠ .union := fun t ht hname hkind ↦
      hunion ⟨t, ht, hname, hkind⟩
    rw [h.listAt_of_not_union hname] at hmem
    obtain ⟨t, ht, hoffer⟩ := List.mem_flatMap.1 hmem
    rw [(NamedType.mem_offers_iff.1 hoffer).2.2]
    exact ⟨t, h.byName.names.get?_of_mem ht⟩

theorem map_name_possibleTypes (h : s.Built) (t : NamedType) :
    (s.possibleTypes t).map NamedType.name = s.possibleNames t := by
  have hresolve : ∀ possible ∈ s.possibleNames t, ∃ u, s.type? possible = some u := by
    intro possible hmem
    rw [possibleNames] at hmem
    split at hmem
    · exact h.type?_of_mem_listAt hmem
    · exact absurd hmem List.not_mem_nil
  exact (h.map_name_filterMap hresolve).trans (List.map_id _)

/-- What can appear in the place of an interface is an object that declares it. -/
theorem object_of_mem_possibleTypes (h : s.Built) (ht : t ∈ s.types.values)
    (hkind : t.kind = .interface) {u : NamedType} (hu : u ∈ s.possibleTypes t) :
    u.kind = .object ∧ t.name ∈ u.interfaceNames := by
  obtain ⟨possible, hmem, hfound⟩ := List.mem_filterMap.1 hu
  have habstract : t.isAbstract = true := by rw [NamedType.isAbstract, hkind]
  rw [possibleNames, if_pos habstract] at hmem
  have hoffered : possible ∈ s.types.values.flatMap (NamedType.offers t.name) :=
    h.listAt_interface ht hkind ▸ hmem
  obtain ⟨v, hv, hoffer⟩ := List.mem_flatMap.1 hoffered
  obtain ⟨hobject, hdeclares, rfl⟩ := NamedType.mem_offers_iff.1 hoffer
  rw [Option.some.inj (hfound.symm.trans (h.byName.names.get?_of_mem hv))]
  exact ⟨hobject, hdeclares⟩

end Built

/-! ### Nothing dangles -/

/-- Every reference of a schema that leads to something that is answered resolves. -/
structure Resolved (s : Schema) : Prop where
  /-- There is a root type for queries. -/
  query : (s.rootType? .query).isSome
  /-- There is a root type for mutations exactly when the schema names one. -/
  mutation : (s.rootType? .mutation).isSome = s.mutation?.isSome
  /-- There is a root type for subscriptions exactly when the schema names one. -/
  subscription : (s.rootType? .subscription).isSome = s.subscription?.isSome
  /-- A field gives back a type that is there, has the name in the annotation of the field, and is
  not an input object. -/
  fields : ∀ t ∈ s.types.values, ∀ fields ∈ t.fields?, ∀ f ∈ fields.values,
    ∃ u, s.returnType? f = some u ∧ u.name = f.annotation.innermost.name ∧
      u.kind ≠ .inputObject
  /-- The interfaces of a type are those that it declares. -/
  interfaces : ∀ t ∈ s.types.values, (s.interfacesOf t).map NamedType.name = t.interfaceNames
  /-- The members of a union are those that it declares. -/
  members : ∀ t ∈ s.types.values, (s.membersOf t).map NamedType.name = t.memberNames
  /-- The possible types of whatever type are those of the names that the index has for it. -/
  possible : ∀ t, (s.possibleTypes t).map NamedType.name = s.possibleNames t
  /-- The possible types of an interface are objects. -/
  objects : ∀ t ∈ s.types.values, t.kind = .interface →
    ∀ u ∈ s.possibleTypes t, u.kind = .object

/-- **Nothing dangles.** In a built schema every such reference resolves. -/
theorem resolved_of_built (h : s.Built) : s.Resolved where
  query := h.isSome_rootType? .query
  mutation := h.isSome_rootType? .mutation
  subscription := h.isSome_rootType? .subscription
  fields _ ht _ hfields _ hf := by
    obtain ⟨u, hu, hkind⟩ := h.exists_returnType? ht hfields hf
    exact ⟨u, hu, h.name_of_returnType? hu, hkind⟩
  interfaces _ ht := h.map_name_interfacesOf ht
  members _ ht := h.map_name_membersOf ht
  possible := h.map_name_possibleTypes
  objects _ ht hkind _ hu := (h.object_of_mem_possibleTypes ht hkind hu).1

end Schema

/-- A schema with a root type for mutations, an interface that two types implement, and a union of
one of the types and the interface. -/
def petDeclarations : List Declaration :=
  let name : FieldDecl := ⟨⟨2, 3⟩, none, "name", [], .named "String"⟩
  [.type ⟨⟨1, 1⟩, none, "Query", .object [] [⟨⟨2, 3⟩, none, "pets", [], .list (.named "Pet")⟩]⟩,
    .type ⟨⟨4, 1⟩, none, "Cat", .object ["Pet"] [name]⟩,
    .type ⟨⟨7, 1⟩, none, "Pet", .interface [] [name]⟩,
    .type ⟨⟨10, 1⟩, none, "Dog", .object ["Pet"] [name]⟩,
    .type ⟨⟨13, 1⟩, none, "Choice", .union ["Dog", "Pet", "Dog"]⟩,
    .type ⟨⟨15, 1⟩, none, "Mutation", .object [] [⟨⟨16, 3⟩, none, "choose", [], .named "Choice"⟩]⟩]

theorem resolved_petDeclarations : ∃ s : Schema, s.Built ∧ s.Resolved ∧
    (s.rootType? .mutation).isSome ∧ (s.rootType? .subscription).isSome = false ∧
    (s.types.values.map s.possibleNames).filter (· ≠ []) = [["Cat", "Dog"], ["Dog", "Pet"]] := by
  have h : ∃ s : Schema, ∃ d : Draft, Draft.empty.load none petDeclarations = .ok d ∧
      d.build = .ok s ∧ s.mutation?.isSome ∧ s.subscription?.isSome = false ∧
      (s.types.values.map s.possibleNames).filter (· ≠ []) = [["Cat", "Dog"], ["Dog", "Pet"]] :=
    ⟨_, _, rfl, rfl, rfl, rfl, by decide +kernel⟩
  obtain ⟨s, d, hd, hs, hmutation, hsubscription, hpossible⟩ := h
  have hbuilt : s.Built := ⟨d, .load none petDeclarations .empty hd, hs⟩
  have hresolved := Schema.resolved_of_built hbuilt
  exact ⟨s, hbuilt, hresolved, hresolved.mutation.trans hmutation,
    hresolved.subscription.trans hsubscription, hpossible⟩

end GraphQLCheck
