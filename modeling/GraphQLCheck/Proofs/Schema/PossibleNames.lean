import GraphQLCheck.Proofs.Schema.Declared

/-!
# What the index of possible types says

One index holds the possible types of all interfaces and of all unions, by name. It is filled in one
pass, in which objects append to the lists of other types and a union sets its own list. Two facts
about built schemas keep the lists apart: no two types have one name, and what an object declares to
implement is an interface. So the index says what the documents declare that the schema is built
from (`Schema.Indexed`).

Under an interface are the objects that declare it, in the order of the types and each as often as
it declares it; under a union are its members in the order of their first mention; and there is
nothing else in the index (`Schema.Built.exists_of_get?_possible`). Hence what can appear in the
place of a type can be read off the types themselves: from the interfaces that an object declares
(`Schema.Built.isPossible_iff_of_interface`), and from the members of a union.
-/

namespace GraphQLCheck

/-- The members of a declared union come in the order of their first mention. -/
theorem NamedType.memberNames_of_ofDecl {file : Option String} {decl : TypeDecl} {t : NamedType}
    (h : NamedType.ofDecl file decl = .ok t) {members : List String}
    (hbody : decl.body = .union members) : t.memberNames = members.eraseDups := by
  obtain ⟨shape, hshape, rfl⟩ := NamedType.ofDecl_eq_ok_iff.1 h
  rw [Shape.ofDecl, hbody] at hshape
  obtain rfl := Except.ok.inj hshape
  show (Dict.ofList _).keys = members.eraseDups
  rw [Dict.keys_ofList, List.map_map, List.map_map]
  exact congrArg List.eraseDups (List.map_id members)

theorem NamedType.isAbstract_iff {t : NamedType} :
    t.isAbstract = true ↔ t.kind = .interface ∨ t.kind = .union := by
  rw [isAbstract]
  cases t.kind <;> decide

namespace Schema

variable {s : Schema} {t : NamedType} {docs : List SchemaDocument}

/-- Nothing appears in the place of a type that is neither an interface nor a union. -/
theorem possibleNames_eq_nil (h : ¬ (t.kind = .interface ∨ t.kind = .union)) :
    s.possibleNames t = [] := by
  rw [← NamedType.isAbstract_iff] at h
  rw [possibleNames, if_neg h]

/-- A type that is not a scalar comes from a declaration in the documents. -/
theorem exists_ofDecl_of_ofDocuments (h : ofDocuments docs = .ok s) (ht : t ∈ s.types.values)
    (hkind : t.kind ≠ .scalar) : ∃ p ∈ placedIn docs, ∃ decl, p.declaration = .type decl ∧
      NamedType.ofDecl p.file? decl = .ok t := by
  obtain ⟨d, hd, hs⟩ := bind_eq_ok_iff.1 h
  obtain ⟨-, _, _, _, -, -, -, rfl⟩ := Draft.build_eq_ok_iff.1 hs
  rw [Draft.loadDocuments_eq_foldlM] at hd
  rw [(Draft.extends_of_foldlM hd).values, List.mem_append] at ht
  rcases ht with hbuiltIn | hdeclared
  · have hscalar : ∀ t ∈ Draft.empty.types.values, t.kind = .scalar := by decide
    exact absurd (hscalar t hbuiltIn) hkind
  · obtain ⟨p, hp, htype⟩ := List.mem_filterMap.1 hdeclared
    obtain ⟨decl, hdecl, hofDecl⟩ := Placed.type?_eq_some_iff.1 htype
    exact ⟨p, hp, decl, hdecl, hofDecl⟩

namespace Built

/-- What can appear in the place of an interface are the objects that declare it. -/
theorem isPossible_iff_of_interface (h : s.Built) (ht : t ∈ s.types.values)
    (hkind : t.kind = .interface) {name : String} : s.isPossible t name = true ↔
      ∃ u, s.type? name = some u ∧ u.kind = .object ∧ t.name ∈ u.interfaceNames := by
  rw [isPossible, List.contains_iff_mem, h.possibleNames_of_interface ht hkind, List.mem_flatMap]
  constructor
  · rintro ⟨u, hu, hoffer⟩
    obtain ⟨hobject, hdeclares, rfl⟩ := NamedType.mem_offers_iff.1 hoffer
    exact ⟨u, h.byName.names.get?_of_mem hu, hobject, hdeclares⟩
  · rintro ⟨u, hu, hobject, hdeclares⟩
    have hname : u.name = name := h.byName.names.name_of_get? hu
    exact ⟨u, Dict.mem_values_of_get? hu,
      NamedType.mem_offers_iff.2 ⟨hobject, hdeclares, hname.symm⟩⟩

/-- Every list in the index is that of an interface or of a union. -/
theorem exists_of_get?_possible (h : s.Built) {name : String} {names : List String}
    (hget : s.possible.get? name = some names) : ∃ t, s.type? name = some t ∧ t.name = name ∧
      (t.kind = .interface ∨ t.kind = .union) ∧ s.possibleNames t = names := by
  have habstract : ∃ t, s.type? name = some t ∧ (t.kind = .interface ∨ t.kind = .union) := by
    -- some type has put the name into the index: an object, or a union of that name
    have hcontains := Dict.contains_of_get? hget
    rw [h.possible_eq, contains_possibleTypes, List.any_eq_true] at hcontains
    obtain ⟨u, hu, hindexes⟩ := hcontains
    rw [NamedType.indexes] at hindexes
    split at hindexes
    · rw [List.contains_iff_mem, NamedType.interfaceNames, List.mem_map] at hindexes
      obtain ⟨ref, href, rfl⟩ := hindexes
      obtain ⟨i, hi, hinterface⟩ := h.exists_interface hu href
      exact ⟨i, hi, Or.inl hinterface⟩
    · rename_i hunion
      rw [beq_iff_eq] at hindexes
      exact ⟨u, hindexes ▸ h.byName.names.get?_of_mem hu, Or.inr hunion⟩
    · exact absurd hindexes Bool.false_ne_true
  obtain ⟨t, ht, hkind⟩ := habstract
  have hname : t.name = name := h.byName.names.name_of_get? ht
  refine ⟨t, ht, hname, hkind, ?_⟩
  rw [possibleNames, if_pos (NamedType.isAbstract_iff.2 hkind), hname, hget]
  rfl

end Built

/-- The index of a schema says what the documents declare. -/
structure Indexed (docs : List SchemaDocument) (s : Schema) : Prop where
  /-- Under an interface are the objects in the order of the types, each once for every time that it
  declares the interface. -/
  interfaces : ∀ t ∈ s.types.values, t.kind = .interface → s.possibleNames t =
    (objectTypes s.types).flatMap fun u ↦ List.replicate (u.interfaceNames.count t.name) u.name
  /-- Under a union are the members that its declaration lists, in the order of their first mention;
  and these can appear in its place. -/
  unions : ∀ t ∈ s.types.values, t.kind = .union → ∃ p ∈ placedIn docs, ∃ decl members,
    p.declaration = .type decl ∧ decl.name = t.name ∧ decl.body = .union members ∧
      s.possibleNames t = members.eraseDups ∧
      ∀ name, s.isPossible t name = true ↔ name ∈ members
  /-- Nothing is under a type of another kind. -/
  others : ∀ t ∈ s.types.values, t.kind ≠ .interface → t.kind ≠ .union → s.possibleNames t = []
  /-- What can appear in the place of an interface are the objects that declare it. -/
  implementors : ∀ t ∈ s.types.values, t.kind = .interface → ∀ name, s.isPossible t name = true ↔
    ∃ u, s.type? name = some u ∧ u.kind = .object ∧ t.name ∈ u.interfaceNames
  /-- Every list in the index is that of one interface or union, whose name it is under. -/
  lists : ∀ name names, s.possible.get? name = some names → ∃ t, s.type? name = some t ∧
    t.name = name ∧ (t.kind = .interface ∨ t.kind = .union) ∧ s.possibleNames t = names

/-- The objects offer themselves to an interface as often as they declare it. -/
theorem possibleNames_eq_flatMap_objectTypes (h : s.Built) (ht : t ∈ s.types.values)
    (hkind : t.kind = .interface) : s.possibleNames t = (objectTypes s.types).flatMap fun u ↦
      List.replicate (u.interfaceNames.count t.name) u.name := by
  rw [h.possibleNames_of_interface ht hkind, ← flatMap_offers_objectTypes]
  refine List.flatMap_congr fun u hu ↦ ?_
  have hobject : u.kind = .object := by simpa using (List.mem_filter.1 hu).2
  rw [NamedType.offers, if_pos hobject]

/-- A union of a schema is declared with the members that are its possible types. -/
theorem exists_members_of_ofDocuments (h : ofDocuments docs = .ok s) (ht : t ∈ s.types.values)
    (hkind : t.kind = .union) : ∃ p ∈ placedIn docs, ∃ decl members,
      p.declaration = .type decl ∧ decl.name = t.name ∧ decl.body = .union members ∧
        s.possibleNames t = members.eraseDups ∧
        ∀ name, s.isPossible t name = true ↔ name ∈ members := by
  have hscalar : t.kind ≠ .scalar := by
    rw [hkind]
    decide
  obtain ⟨p, hp, decl, hdecl, hofDecl⟩ := exists_ofDecl_of_ofDocuments h ht hscalar
  have hbody : ∃ members, decl.body = .union members := by
    have hdeclared : decl.body.kind = .union := (NamedType.kind_of_ofDecl hofDecl).symm.trans hkind
    cases hbody : decl.body
    case union members => exact ⟨members, rfl⟩
    all_goals
      rw [hbody] at hdeclared
      cases hdeclared
  obtain ⟨members, hbody⟩ := hbody
  have hnames : s.possibleNames t = members.eraseDups := by
    rw [(built_of_ofDocuments h).possibleNames_of_union ht hkind,
      NamedType.memberNames_of_ofDecl hofDecl hbody]
  refine ⟨p, hp, decl, members, hdecl, (NamedType.name_of_ofDecl hofDecl).symm, hbody, hnames, ?_⟩
  intro name
  rw [isPossible, hnames, List.contains_iff_mem, List.mem_eraseDups]

end Schema

/-- **The index is exact.** Every built schema is that of some documents; and whichever these are,
the index of possible types says what they declare and nothing else. -/
theorem indexed_of_built {s : Schema} (h : s.Built) :
    (∃ docs, Schema.ofDocuments docs = .ok s) ∧
    ∀ docs, Schema.ofDocuments docs = .ok s → s.Indexed docs := by
  refine ⟨h.exists_ofDocuments, fun docs hdocs ↦ ?_⟩
  constructor
  case interfaces => exact fun _ ht ↦ Schema.possibleNames_eq_flatMap_objectTypes h ht
  case unions => exact fun _ ht ↦ Schema.exists_members_of_ofDocuments hdocs ht
  case others =>
    exact fun _ _ hinterface hunion ↦ Schema.possibleNames_eq_nil (not_or.2 ⟨hinterface, hunion⟩)
  case implementors => exact fun _ ht hkind _ ↦ h.isPossible_iff_of_interface ht hkind
  case lists => exact fun _ _ ↦ h.exists_of_get?_possible

/-- The members of the union are listed once each, and the interface among them has a list of its
own. -/
theorem indexed_petDocuments : ∃ s : Schema, s.Built ∧
    Schema.ofDocuments petDocuments = .ok s ∧ s.Indexed petDocuments ∧
    s.possible.entries = [("Pet", ["Cat", "Dog"]), ("Choice", ["Dog", "Pet"])] := by
  have h : ∃ s, Schema.ofDocuments petDocuments = .ok s ∧
      s.possible.entries = [("Pet", ["Cat", "Dog"]), ("Choice", ["Dog", "Pet"])] :=
    ⟨_, rfl, by decide +kernel⟩
  obtain ⟨s, hs, hentries⟩ := h
  have hbuilt : s.Built := Schema.built_of_ofDocuments hs
  exact ⟨s, hbuilt, hs, (indexed_of_built hbuilt).2 petDocuments hs, hentries⟩

end GraphQLCheck
