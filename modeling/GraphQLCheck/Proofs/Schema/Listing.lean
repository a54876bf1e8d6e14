import GraphQLCheck.Proofs.Schema.Declared

/-!
# What a schema lists

The types of a schema are the five built-in scalars, followed by the types that its documents
declare, in the order of their declarations. Each stands under its own name and is of the kind and
at the place that its declaration says, and each of its fields stands under its own name, in order,
and names it as its parent (`Schema.Lists`). All this comes down to what loading adds to the types
that every draft has from the start (`Draft.Extends`).

Names are what loading keeps apart. It fails exactly when the declarations **clash** (`Clash`): a
type takes the name of a built-in one or of another, or a name that is reserved, or a type declares
a field twice, or an operation gets two root types (`exists_error_iff_clash`).
-/

namespace GraphQLCheck

/-! ### Declared names -/

/-- The names that are reserved are those that begin with two underscores. -/
theorem isReserved_iff {name : String} :
    Draft.isReserved name = true ↔ ['_', '_'] <+: name.toList := by
  rw [Draft.isReserved, beq_iff_eq, List.prefix_iff_eq_take]
  exact eq_comm

/-- The name of the type that is declared, if one is. -/
def Placed.typeName? (p : Placed) : Option String :=
  match p.declaration with
  | .type decl => some decl.name
  | _ => none

/-- The names of the types that some documents declare, in order. -/
def declaredNames (docs : List SchemaDocument) : List String :=
  (placedIn docs).filterMap Placed.typeName?

theorem Placed.mem_declaredNames {docs : List SchemaDocument} {p : Placed} (hp : p ∈ placedIn docs)
    {decl : TypeDecl} (hdecl : p.declaration = .type decl) : decl.name ∈ declaredNames docs := by
  refine List.mem_filterMap.2 ⟨p, hp, ?_⟩
  rw [typeName?, hdecl]

theorem exists_of_mem_declaredNames {docs : List SchemaDocument} {name : String}
    (h : name ∈ declaredNames docs) :
    ∃ p ∈ placedIn docs, ∃ decl, p.declaration = .type decl ∧ decl.name = name := by
  obtain ⟨p, hp, hname⟩ := List.mem_filterMap.1 h
  rw [Placed.typeName?] at hname
  split at hname
  · rename_i decl hdecl
    exact ⟨p, hp, decl, hdecl, Option.some.inj hname⟩
  · cases hname

/-- A sound declaration of a type repeats no field and has a name that is not reserved. -/
theorem Placed.sound_iff {p : Placed} {decl : TypeDecl} (hdecl : p.declaration = .type decl) :
    p.Sound ↔ (decl.body.fields.map FieldDecl.name).Nodup ∧ ¬ ['_', '_'] <+: decl.name.toList := by
  rw [Sound, hdecl, ← isReserved_iff, Bool.not_eq_true, ← NamedType.exists_ofDecl_iff p.file?]
  constructor
  · rintro ⟨t, ht, hreserved⟩
    exact ⟨⟨t, ht⟩, NamedType.name_of_ofDecl ht ▸ hreserved⟩
  · rintro ⟨⟨t, ht⟩, hreserved⟩
    exact ⟨t, ht, (NamedType.name_of_ofDecl ht).symm ▸ hreserved⟩

/-- Sound declarations declare types of the names that they say. -/
theorem declaredNames_eq {docs : List SchemaDocument} (h : ∀ p ∈ placedIn docs, p.Sound) :
    declaredNames docs = (declaredTypes (placedIn docs)).map NamedType.name := by
  rw [declaredNames, declaredTypes, List.map_filterMap]
  refine List.filterMap_congr fun p hp ↦ ?_
  have hsound := h p hp
  obtain ⟨file?, declaration⟩ := p
  cases declaration with
  | type decl =>
    obtain ⟨t, ht, -⟩ := hsound
    show some decl.name = (NamedType.ofDecl file? decl).toOption.map NamedType.name
    rw [ht, ← NamedType.name_of_ofDecl ht]
    rfl
  | schema decl => rfl
  | extension name => rfl
  | directive name => rfl

/-! ### Clashes -/

/-- The declarations of some documents cannot stand together. -/
inductive Clash (docs : List SchemaDocument) : Prop
  /-- A type is declared under the name of a built-in one. -/
  | builtInName (b : BuiltInScalar) (h : b.name ∈ declaredNames docs)
  /-- Two types are declared under one name. -/
  | repeatedName (h : ¬ (declaredNames docs).Nodup)
  /-- A type is declared under a name that begins with two underscores. -/
  | reservedName {name : String} (hname : name ∈ declaredNames docs)
    (h : ['_', '_'] <+: name.toList)
  /-- An object or an interface declares two fields of one name. -/
  | repeatedField {p : Placed} {decl : TypeDecl} (hp : p ∈ placedIn docs)
    (hdecl : p.declaration = .type decl) (h : ¬ (decl.body.fields.map FieldDecl.name).Nodup)
  /-- The schema declarations name two root types for one operation. -/
  | repeatedRoot (operation : OperationKind)
    (h : 2 ≤ (declaredRoots operation (placedIn docs)).length)

/-- The types that a schema begins with are the built-in scalars. -/
theorem keys_empty_types : Draft.empty.types.keys = BuiltInScalar.names := rfl

theorem root?_empty (operation : OperationKind) : Draft.empty.root? operation = none := by
  cases operation <;> rfl

/-- Declarations that a schema can begin with do not clash. -/
theorem not_clash_of_admits {docs : List SchemaDocument} (h : Draft.empty.Admits (placedIn docs)) :
    ¬ Clash docs := by
  have hnames := h.names
  rw [← declaredNames_eq h.sound, keys_empty_types, List.nodup_append] at hnames
  obtain ⟨-, hnodup, hdisjoint⟩ := hnames
  intro hclash
  cases hclash with
  | builtInName b hb => exact hdisjoint _ b.name_mem_names _ hb rfl
  | repeatedName hrepeated => exact hrepeated hnodup
  | reservedName hname hreserved =>
    obtain ⟨p, hp, decl, hdecl, rfl⟩ := exists_of_mem_declaredNames hname
    exact ((Placed.sound_iff hdecl).1 (h.sound p hp)).2 hreserved
  | repeatedField hp hdecl hrepeated =>
    exact hrepeated ((Placed.sound_iff hdecl).1 (h.sound _ hp)).1
  | repeatedRoot operation htwo =>
    have hone := h.roots operation
    rw [root?_empty, Option.toList_none, List.nil_append] at hone
    omega

/-- Declarations that do not clash can be loaded. -/
theorem admits_of_not_clash {docs : List SchemaDocument} (h : ¬ Clash docs) :
    Draft.empty.Admits (placedIn docs) := by
  have hsound : ∀ p ∈ placedIn docs, p.Sound := by
    intro p hp
    rcases hdecl : p.declaration with _ | decl | _ | _
    case type =>
      refine (Placed.sound_iff hdecl).2 ⟨?_, fun hreserved ↦ ?_⟩
      · exact not_not.1 fun hrepeated ↦ h (.repeatedField hp hdecl hrepeated)
      · exact h (.reservedName (Placed.mem_declaredNames hp hdecl) hreserved)
    all_goals
      rw [Placed.Sound, hdecl]
      trivial
  refine ⟨hsound, ?_, fun operation ↦ ?_⟩
  · rw [← declaredNames_eq hsound, keys_empty_types, List.nodup_append]
    refine ⟨by decide, not_not.1 fun hrepeated ↦ h (.repeatedName hrepeated), ?_⟩
    rintro _ hbuiltIn name hname rfl
    obtain ⟨b, -, rfl⟩ := List.mem_map.1 (BuiltInScalar.names_eq ▸ hbuiltIn)
    exact h (.builtInName b hname)
  · rw [root?_empty, Option.toList_none, List.nil_append]
    by_contra htwo
    exact h (.repeatedRoot operation (by omega))

/-- Loading documents fails exactly when their declarations clash. -/
theorem exists_error_iff_clash (docs : List SchemaDocument) :
    (∃ error, Draft.empty.loadDocuments docs = .error error) ↔ Clash docs := by
  have hok : (∃ d, Draft.empty.loadDocuments docs = .ok d) ↔ ¬ Clash docs := by
    rw [Draft.loadDocuments_eq_foldlM, Draft.exists_foldlM_iff]
    exact ⟨not_clash_of_admits, admits_of_not_clash⟩
  cases hload : Draft.empty.loadDocuments docs with
  | error error =>
    refine ⟨fun _ ↦ not_not.1 fun hclash ↦ ?_, fun _ ↦ ⟨error, rfl⟩⟩
    obtain ⟨d, hd⟩ := hok.2 hclash
    cases hload.symm.trans hd
  | ok d => exact ⟨fun ⟨_, h⟩ ↦ (nomatch h), fun hclash ↦ absurd hclash (hok.1 ⟨d, hload⟩)⟩

/-! ### The types of a schema -/

/-- A type is as its declaration in a file says. -/
structure TypeDecl.Describes (file : Option String) (decl : TypeDecl) (t : NamedType) : Prop where
  /-- It has the name that is declared. -/
  name : t.name = decl.name
  /-- It is of the kind that is declared. -/
  kind : t.kind = decl.body.kind
  /-- It is located at the declaration. -/
  location : t.location = .written file decl.position
  /-- Its fields come in the order of their declarations. -/
  fieldNames : ∀ fields, t.fields? = some fields →
    fields.keys = decl.body.fields.map FieldDecl.name
  /-- Each of its fields stands under its own name and has it for its parent. -/
  fields : ∀ fields, t.fields? = some fields →
    ∀ e ∈ fields.entries, e.2.name = e.1 ∧ e.2.parent = t.name

/-- A schema lists what some documents declare. -/
structure Schema.Lists (docs : List SchemaDocument) (s : Schema) : Prop where
  /-- The names of the types are those of the built-in scalars and then the declared ones, in the
  order of the declarations. -/
  keys : s.types.keys = ["Boolean", "Float", "ID", "Int", "String"] ++ declaredNames docs
  /-- No two of these names are equal. -/
  distinct : (["Boolean", "Float", "ID", "Int", "String"] ++ declaredNames docs).Nodup
  /-- No declared name begins with two underscores. -/
  unreserved : ∀ name ∈ declaredNames docs, ¬ ['_', '_'] <+: name.toList
  /-- A type that is found by a name has that name. -/
  named : ∀ name t, s.type? name = some t → t.name = name
  /-- The names of the built-in scalars lead to these. -/
  builtIn : ∀ b : BuiltInScalar, ∃ t, s.type? b.name = some t ∧ t.kind = .scalar ∧
    t.location = .builtIn
  /-- The name of a declared type leads to a type that is as its declaration says. -/
  declared : ∀ p ∈ placedIn docs, ∀ decl, p.declaration = .type decl →
    ∃ t, s.type? decl.name = some t ∧ decl.Describes p.file? t
  /-- The types that come from declarations are all but the first five. -/
  defined : s.definedTypes = s.types.values.drop 5
  /-- The types that count as built-in are those with the name of a built-in scalar, and these are
  the names that literals of a built-in scalar go by. -/
  scalars : ∀ t ∈ s.types.values, t.kind = .scalar →
    (t.isBuiltIn = true ↔ t.name ∈ BuiltInScalar.names) ∧
    (t.name ∈ BuiltInScalar.names ↔ (BuiltInScalar.ofName? t.name).isSome)

theorem TypeDecl.describes_of_ofDecl {file : Option String} {decl : TypeDecl} {t : NamedType}
    (h : NamedType.ofDecl file decl = .ok t) : decl.Describes file t where
  name := NamedType.name_of_ofDecl h
  kind := NamedType.kind_of_ofDecl h
  location := NamedType.location_of_ofDecl h
  fieldNames fields hfields := by
    rw [Dict.keys, NamedType.entries_of_ofDecl h hfields, List.map_map]
    rfl
  fields fields hfields e he := by
    rw [NamedType.entries_of_ofDecl h hfields] at he
    obtain ⟨f, -, rfl⟩ := List.mem_map.1 he
    exact ⟨rfl, (NamedType.name_of_ofDecl h).symm⟩

/-- What is declared is not built in. -/
theorem isBuiltIn_of_mem_declaredTypes {l : List Placed} {t : NamedType}
    (h : t ∈ declaredTypes l) : t.isBuiltIn = false := by
  obtain ⟨p, -, htype⟩ := List.mem_filterMap.1 h
  obtain ⟨decl, -, hofDecl⟩ := Placed.type?_eq_some_iff.1 htype
  rw [NamedType.isBuiltIn, NamedType.location_of_ofDecl hofDecl]
  exact Bool.and_false _

namespace Draft.Extends

variable {docs : List SchemaDocument} {d : Draft}

/-- A declared type is found by its name. -/
theorem get?_declared (h : Draft.empty.Extends (placedIn docs) d) {p : Placed}
    (hp : p ∈ placedIn docs) {decl : TypeDecl} (hdecl : p.declaration = .type decl) :
    ∃ t, d.types.get? decl.name = some t ∧ NamedType.ofDecl p.file? decl = .ok t := by
  have hsound := h.sound p hp
  rw [Placed.Sound, hdecl] at hsound
  obtain ⟨t, ht, -⟩ := hsound
  have hmem : t ∈ declaredTypes (placedIn docs) :=
    List.mem_filterMap.2 ⟨p, hp, Placed.type?_eq_some_iff.2 ⟨decl, hdecl, ht⟩⟩
  refine ⟨t, ?_, ht⟩
  rw [Dict.get?_eq_some_iff, h.types, ← NamedType.name_of_ofDecl ht]
  exact List.mem_append_right _ (List.mem_map_of_mem hmem)

theorem keys_eq (h : Draft.empty.Extends (placedIn docs) d) :
    d.types.keys = BuiltInScalar.names ++ declaredNames docs := by
  rw [h.keys, declaredNames_eq h.sound]
  rfl

/-- The types that count as built-in are the first five. -/
theorem filter_isBuiltIn (h : Draft.empty.Extends (placedIn docs) d) :
    d.types.values.filter (fun t ↦ !t.isBuiltIn) = d.types.values.drop 5 := by
  have hnone : Draft.empty.types.values.filter (fun t ↦ !t.isBuiltIn) = [] := by decide
  have hall : (declaredTypes (placedIn docs)).filter (fun t ↦ !t.isBuiltIn) =
      declaredTypes (placedIn docs) := by
    refine List.filter_eq_self.2 fun t ht ↦ ?_
    rw [isBuiltIn_of_mem_declaredTypes ht]
    rfl
  have hfive : Draft.empty.types.values.length = 5 := rfl
  rw [h.values, List.filter_append, hnone, hall, List.nil_append, List.drop_left' hfive]

/-- A type counts as built-in exactly when it has the name of a built-in scalar. -/
theorem isBuiltIn_iff (h : Draft.empty.Extends (placedIn docs) d) {t : NamedType}
    (ht : t ∈ d.types.values) :
    t.isBuiltIn = true ↔ t.name ∈ BuiltInScalar.names := by
  rw [h.values, List.mem_append] at ht
  rcases ht with hbuiltIn | hdeclared
  · -- both sides hold of the types that are there from the start
    have hboth : ∀ t ∈ Draft.empty.types.values, t.isBuiltIn = true ∧
        t.name ∈ BuiltInScalar.names := by decide
    exact iff_of_true (hboth t hbuiltIn).1 (hboth t hbuiltIn).2
  · -- neither holds of a declared type, whose name is none of those before it
    have hnodup := d.types.keys_nodup
    rw [h.keys, List.nodup_append] at hnodup
    refine iff_of_false (by simp [isBuiltIn_of_mem_declaredTypes hdeclared]) fun hname ↦ ?_
    exact hnodup.2.2 _ hname _ (List.mem_map_of_mem hdeclared) rfl

end Draft.Extends

/-- **What a schema lists.** A schema of some documents lists the built-in scalars and what the
documents declare, in order. Loading documents fails exactly when their declarations clash. -/
theorem lists_of_ofDocuments (docs : List SchemaDocument) :
    (∀ s, Schema.ofDocuments docs = .ok s → s.Lists docs) ∧
    ((∃ error, Draft.empty.loadDocuments docs = .error error) ↔ Clash docs) := by
  refine ⟨fun s hs ↦ ?_, exists_error_iff_clash docs⟩
  have hbuilt := Schema.built_of_ofDocuments hs
  obtain ⟨d, hd, hbuild⟩ := bind_eq_ok_iff.1 hs
  obtain ⟨-, _, _, _, -, -, -, rfl⟩ := Draft.build_eq_ok_iff.1 hbuild
  have hload := hd
  rw [Draft.loadDocuments_eq_foldlM] at hload
  have hextends := Draft.extends_of_foldlM hload
  have hadmits := Draft.exists_foldlM_iff.1 ⟨d, hload⟩
  exact {
    keys := hextends.keys_eq
    distinct := hextends.keys_eq ▸ d.types.keys_nodup
    unreserved := fun name hname hreserved ↦
      not_clash_of_admits hadmits (.reservedName hname hreserved)
    named := fun name t ht ↦ hbuilt.byName.names.name_of_get? ht
    builtIn := fun b ↦ by
      obtain ⟨description, ht⟩ := hbuilt.type?_builtIn b
      exact ⟨_, ht, rfl, rfl⟩
    declared := fun p hp decl hdecl ↦ by
      obtain ⟨t, ht, hofDecl⟩ := hextends.get?_declared hp hdecl
      exact ⟨t, ht, TypeDecl.describes_of_ofDecl hofDecl⟩
    defined := hextends.filter_isBuiltIn
    scalars := fun t ht _ ↦
      ⟨hextends.isBuiltIn_iff ht, BuiltInScalar.isSome_ofName?_iff.symm⟩ }

/-- A document that declares a type under the name of a built-in one. -/
def intDocument : SchemaDocument := ⟨some "int.graphql", [.type ⟨⟨1, 1⟩, none, "Int", .scalar⟩]⟩

theorem lists_petDocuments : ∃ s, Schema.ofDocuments petDocuments = .ok s ∧ s.Lists petDocuments ∧
    s.types.keys = ["Boolean", "Float", "ID", "Int", "String", "Query", "Cat", "Pet", "Dog",
      "Choice", "Mutation"] ∧
    (∃ t, s.type? "Dog" = some t ∧ t.kind = .object ∧
      t.location = .written (some "rest.graphql") ⟨10, 1⟩) ∧
    ∃ error, Draft.empty.loadDocuments (petDocuments ++ [intDocument]) = .error error := by
  obtain ⟨s, hs⟩ : ∃ s, Schema.ofDocuments petDocuments = .ok s := ⟨_, rfl⟩
  have hlists := (lists_of_ofDocuments petDocuments).1 s hs
  -- the fourth declaration is the first of the second file
  have hdog : Placed.mk (some "rest.graphql") petDeclarations[3] ∈ placedIn petDocuments :=
    List.mem_of_getElem? (i := 3) rfl
  obtain ⟨t, ht, hdescribes⟩ := hlists.declared _ hdog _ rfl
  refine ⟨s, hs, hlists, hlists.keys, ⟨t, ht, hdescribes.kind, hdescribes.location⟩, ?_⟩
  exact (lists_of_ofDocuments _).2.2 (.builtInName .int (by decide))

end GraphQLCheck
