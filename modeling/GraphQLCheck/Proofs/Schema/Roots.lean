import GraphQLCheck.Proofs.Schema.Loading
import GraphQLCheck.Proofs.Schema.References

/-!
# Where operations begin

A schema declaration can name a root type for each operation (`NamesRoot`). The type that is named
for an operation is its root type, wherever the declaration stands and however many there are. An
operation for which no declaration names one begins at the object with the conventional name, if
there is one.

Each operation is settled on its own: building keeps what has been named, operation by operation,
and nothing else (`exists_resolveRoot_of_ofDocuments`), and the conventional name serves every
operation that has been left out, whether or not there is a schema declaration. So schema
declarations do not decide alone (`DecidedByDeclarations`). There are more root types than they name
exactly when they leave out an operation and an object has its conventional name
(`rootType_of_ofDocuments`).
-/

namespace GraphQLCheck

/-! ### What the documents say -/

/-- Some document declares a schema. -/
def DeclaresSchema (docs : List SchemaDocument) : Prop :=
  ∃ doc ∈ docs, ∃ decl, Declaration.schema decl ∈ doc.declarations

/-- A schema declaration in some document names the root type of an operation. -/
def NamesRoot (docs : List SchemaDocument) (operation : OperationKind) (name : String) : Prop :=
  ∃ doc ∈ docs, ∃ decl, Declaration.schema decl ∈ doc.declarations ∧
    decl.root? operation = some name

variable {docs : List SchemaDocument} {operation : OperationKind} {name : String}

theorem NamesRoot.declaresSchema (h : NamesRoot docs operation name) : DeclaresSchema docs := by
  obtain ⟨doc, hdoc, decl, hdecl, -⟩ := h
  exact ⟨doc, hdoc, decl, hdecl⟩

theorem mem_placedIn_iff {p : Placed} :
    p ∈ placedIn docs ↔ ∃ doc ∈ docs, p.file? = doc.file? ∧ p.declaration ∈ doc.declarations := by
  simp only [placedIn, SchemaDocument.placed, List.mem_flatMap, List.mem_map]
  constructor
  · rintro ⟨doc, hdoc, decl, hdecl, rfl⟩
    exact ⟨doc, hdoc, rfl, hdecl⟩
  · rintro ⟨doc, hdoc, hfile, hdecl⟩
    exact ⟨doc, hdoc, p.declaration, hdecl, by rw [← hfile]⟩

/-- The root types that are declared are those that the schema declarations name. -/
theorem namesRoot_iff :
    NamesRoot docs operation name ↔
      ∃ root ∈ declaredRoots operation (placedIn docs), root.type = name := by
  simp only [declaredRoots, List.mem_filterMap, mem_placedIn_iff]
  constructor
  · rintro ⟨doc, hdoc, decl, hdecl, hname⟩
    refine ⟨⟨.written doc.file? decl.position, name⟩, ⟨⟨doc.file?, .schema decl⟩, ?_, ?_⟩, rfl⟩
    · exact ⟨doc, hdoc, rfl, hdecl⟩
    · simp [Placed.root?, hname]
  · rintro ⟨root, ⟨p, ⟨doc, hdoc, -, hdecl⟩, hroot⟩, rfl⟩
    rw [Placed.root?] at hroot
    split at hroot
    · rename_i decl heq
      obtain ⟨type, htype, rfl⟩ := Option.map_eq_some_iff.1 hroot
      exact ⟨doc, hdoc, decl, heq ▸ hdecl, htype⟩
    · cases hroot

/-! ### Resolving the root type of an operation -/

/-- Building resolves what has been named for each operation. -/
theorem Draft.resolveRoot_of_build {d : Draft} {s : Schema} (h : d.build = .ok s)
    (operation : OperationKind) :
    resolveRoot s.types operation (d.root? operation) = .ok (s.rootRef? operation) := by
  obtain ⟨-, query, mutation, subscription, hquery, hmutation, hsubscription, rfl⟩ :=
    build_eq_ok_iff.1 h
  cases operation with
  | query => exact hquery
  | mutation => exact hmutation
  | subscription => exact hsubscription

/-- A root type that is named is referred to where it is named. -/
theorem resolveRoot_named {types : Dict NamedType} {root : RootDecl} {ref? : Option TypeRef}
    (h : resolveRoot types operation (some root) = .ok ref?) :
    ref? = some ⟨root.type, root.location⟩ := by
  rw [resolveRoot] at h
  split at h
  · split at h
    · exact (Except.ok.inj h).symm
    · cases h
  · cases h

/-- Where none is named, the one that is referred to is the object with the conventional name. -/
theorem resolveRoot_unnamed {types : Dict NamedType} {ref? : Option TypeRef}
    (h : resolveRoot types operation none = .ok ref?) :
    ref?.map TypeRef.name =
      if ∃ t ∈ types.get? operation.conventionalRoot, t.kind = .object
      then some operation.conventionalRoot else none := by
  rw [resolveRoot] at h
  rcases ht : types.get? operation.conventionalRoot with - | t
  · rw [ht] at h
    rw [← Except.ok.inj h]
    simp
  · simp only [ht] at h
    rw [← Except.ok.inj h]
    by_cases hkind : t.kind = .object <;> simp [hkind]

namespace Schema

variable {s : Schema}

theorem mem_values_of_rootType? {t : NamedType} (h : s.rootType? operation = some t) :
    t ∈ s.types.values := by
  obtain ⟨ref, -, hobject⟩ := Option.bind_eq_some_iff.1 h
  exact Dict.mem_values_of_get? (Option.filter_eq_some_iff.1 hobject).1

/-- A root type has the name that it is referred to by. -/
theorem Built.name_of_rootType? (h : s.Built) {ref : TypeRef} {t : NamedType}
    (href : s.rootRef? operation = some ref) (ht : s.rootType? operation = some t) :
    t.name = ref.name := by
  rw [rootType?, href, Option.bind_some, object?] at ht
  exact h.byName.names.name_of_get? (Option.filter_eq_some_iff.1 ht).1

/-- What a schema has for an operation is what comes of the one root type that the documents name
for it, or of none. -/
theorem exists_resolveRoot_of_ofDocuments (h : ofDocuments docs = .ok s)
    (operation : OperationKind) :
    ∃ root?, resolveRoot s.types operation root? = .ok (s.rootRef? operation) ∧
      ∀ name, NamesRoot docs operation name ↔ ∃ root ∈ root?, root.type = name := by
  obtain ⟨d, hd, hs⟩ := bind_eq_ok_iff.1 h
  rw [Draft.loadDocuments_eq_foldlM] at hd
  have hroots : (d.root? operation).toList = declaredRoots operation (placedIn docs) := by
    rw [(Draft.extends_of_foldlM hd).roots]
    cases operation <;> rfl
  refine ⟨d.root? operation, Draft.resolveRoot_of_build hs operation, fun name ↦ ?_⟩
  rw [namesRoot_iff, ← hroots]
  simp only [Option.mem_toList, Option.mem_def]

/-! ### The root types -/

/-- The root type that a declaration names is the root type. -/
theorem exists_rootType?_of_namesRoot (h : ofDocuments docs = .ok s)
    (hname : NamesRoot docs operation name) :
    ∃ t, s.rootType? operation = some t ∧ t.name = name := by
  have hbuilt : s.Built := built_of_ofDocuments h
  obtain ⟨root?, hresolve, hiff⟩ := exists_resolveRoot_of_ofDocuments h operation
  obtain ⟨root, hroot, rfl⟩ := (hiff name).1 hname
  rw [Option.mem_def.1 hroot] at hresolve
  have href := resolveRoot_named hresolve
  obtain ⟨t, ht, -⟩ := hbuilt.exists_rootType? href
  exact ⟨t, ht, hbuilt.name_of_rootType? href ht⟩

/-- Where no declaration names one, the root type is the object with the conventional name. -/
theorem rootType?_of_not_namesRoot (h : ofDocuments docs = .ok s)
    (hnone : ∀ name, ¬ NamesRoot docs operation name) :
    s.rootType? operation = s.object? operation.conventionalRoot := by
  obtain ⟨root?, hresolve, hiff⟩ := exists_resolveRoot_of_ofDocuments h operation
  have hroot : root? = none := Option.eq_none_iff_forall_not_mem.2 fun root hroot ↦
    hnone root.type ((hiff root.type).2 ⟨root, hroot, rfl⟩)
  rw [hroot] at hresolve
  have hname := resolveRoot_unnamed hresolve
  rw [rootType?]
  split at hname
  · obtain ⟨ref, href, hconventional⟩ := Option.map_eq_some_iff.1 hname
    rw [href, Option.bind_some, hconventional]
  · -- no object has the name, so both sides are none
    rename_i hobject
    rw [Option.map_eq_none_iff.1 hname, Option.bind_none, object?, eq_comm,
      Option.filter_eq_none_iff]
    intro t ht hkind
    exact hobject ⟨t, ht, beq_iff_eq.1 hkind⟩

/-- The schema declarations decide alone about an operation. Once there is one, its root type is
what they name for it, and there is none if they name none; only without any is it the object with
the conventional name. -/
def DecidedByDeclarations (docs : List SchemaDocument) (s : Schema) (operation : OperationKind) :
    Prop :=
  (DeclaresSchema docs → ∀ t, s.rootType? operation = some t ↔
    t ∈ s.types.values ∧ NamesRoot docs operation t.name) ∧
  (¬ DeclaresSchema docs → s.rootType? operation = s.object? operation.conventionalRoot)

/-- The schema declarations decide alone about an operation that they name. -/
theorem decided_of_namesRoot (h : ofDocuments docs = .ok s)
    (hname : NamesRoot docs operation name) : DecidedByDeclarations docs s operation := by
  obtain ⟨t, ht, htname⟩ := exists_rootType?_of_namesRoot h hname
  refine ⟨fun _ u ↦ ⟨fun hu ↦ ?_, fun ⟨hmem, hnames⟩ ↦ ?_⟩, fun hno ↦
    absurd hname.declaresSchema hno⟩
  · have hsame : t = u := Option.some.inj (ht.symm.trans hu)
    exact ⟨mem_values_of_rootType? hu, hsame ▸ htname ▸ hname⟩
  · -- whatever is named is the root type, and types of one name are one type
    obtain ⟨v, hv, hvname⟩ := exists_rootType?_of_namesRoot h hnames
    have hsame : v = u := (built_of_ofDocuments h).byName.names.eq_of_name_eq
      (mem_values_of_rootType? hv) hmem hvname
    rw [hv, hsame]

/-- About an operation that they leave out they decide alone exactly when there are none or no
object has the conventional name. -/
theorem decided_iff_of_not_namesRoot (h : ofDocuments docs = .ok s)
    (hnone : ∀ name, ¬ NamesRoot docs operation name) :
    DecidedByDeclarations docs s operation ↔
      ¬ (DeclaresSchema docs ∧ (s.object? operation.conventionalRoot).isSome) := by
  rw [DecidedByDeclarations, rootType?_of_not_namesRoot h hnone]
  rcases s.object? operation.conventionalRoot with - | t
  · simp [hnone]
  · simp [hnone]

/-- **Root types.** The root type that a schema declaration names for an operation is the root type
of the operation; where none is named, it is the object with the conventional name, if there is one.
So the schema declarations do not decide alone about an operation exactly when there are some, none
names the operation, and there is an object with its conventional name. -/
theorem rootType_of_ofDocuments (h : ofDocuments docs = .ok s) (operation : OperationKind) :
    (∀ name, NamesRoot docs operation name →
      ∃ t, s.rootType? operation = some t ∧ t.name = name) ∧
    ((∀ name, ¬ NamesRoot docs operation name) →
      s.rootType? operation = s.object? operation.conventionalRoot) ∧
    (¬ DecidedByDeclarations docs s operation ↔
      DeclaresSchema docs ∧ (∀ name, ¬ NamesRoot docs operation name) ∧
        (s.object? operation.conventionalRoot).isSome) := by
  refine ⟨fun name ↦ exists_rootType?_of_namesRoot h, rootType?_of_not_namesRoot h, ?_⟩
  by_cases hnone : ∀ name, ¬ NamesRoot docs operation name
  · rw [decided_iff_of_not_namesRoot h hnone, not_not]
    exact ⟨fun ⟨hschema, hobject⟩ ↦ ⟨hschema, hnone, hobject⟩, fun ⟨hschema, _, hobject⟩ ↦
      ⟨hschema, hobject⟩⟩
  · refine ⟨fun hbroken ↦ absurd ?_ hbroken, fun ⟨_, hnone', _⟩ ↦ absurd hnone' hnone⟩
    obtain ⟨name, hname⟩ := not_forall_not.1 hnone
    exact decided_of_namesRoot h hname

end Schema

/-- A schema declaration that names a root type for queries only, and in another document an object
with the conventional name of the root type of mutations. -/
def partialDocuments : List SchemaDocument :=
  [⟨none, [.schema ⟨⟨1, 1⟩, some "Root", none, none⟩, .type ⟨⟨4, 1⟩, none, "Root",
      .object [] [⟨⟨5, 3⟩, none, "version", [], .named "String"⟩]⟩]⟩,
    ⟨none, [.type ⟨⟨7, 1⟩, none, "Mutation",
      .object [] [⟨⟨8, 3⟩, none, "note", [], .named "String"⟩]⟩]⟩]

theorem namesRoot_partialDocuments_iff {operation : OperationKind} {name : String} :
    NamesRoot partialDocuments operation name ↔ operation = .query ∧ name = "Root" := by
  cases operation <;> simp [NamesRoot, partialDocuments, SchemaDecl.root?, eq_comm]

theorem rootType_partialDocuments : ∃ s : Schema, Schema.ofDocuments partialDocuments = .ok s ∧
    (∃ t, s.rootType? .query = some t ∧ t.name = "Root") ∧
    s.rootType? .mutation = s.object? "Mutation" ∧ s.rootType? .subscription = none ∧
    Schema.DecidedByDeclarations partialDocuments s .query ∧
    ¬ Schema.DecidedByDeclarations partialDocuments s .mutation := by
  have h : ∃ s : Schema, Schema.ofDocuments partialDocuments = .ok s ∧
      (s.object? "Mutation").isSome ∧ s.object? "Subscription" = none := ⟨_, rfl, by decide +kernel⟩
  obtain ⟨s, hs, hobject, hnone⟩ := h
  obtain ⟨hnamed, -, hquery⟩ := Schema.rootType_of_ofDocuments hs .query
  obtain ⟨-, hmutation, hbroken⟩ := Schema.rootType_of_ofDocuments hs .mutation
  obtain ⟨-, hsubscription, -⟩ := Schema.rootType_of_ofDocuments hs .subscription
  have hroot : NamesRoot partialDocuments .query "Root" :=
    namesRoot_partialDocuments_iff.2 ⟨rfl, rfl⟩
  have hother {operation : OperationKind} (hne : operation ≠ .query) (name : String) :
      ¬ NamesRoot partialDocuments operation name := fun hname ↦
    hne (namesRoot_partialDocuments_iff.1 hname).1
  refine ⟨s, hs, hnamed "Root" hroot, hmutation (hother (by decide)),
    (hsubscription (hother (by decide))).trans hnone, ?_, ?_⟩
  · exact not_not.1 fun h ↦ (hquery.1 h).2.1 "Root" hroot
  · exact hbroken.2 ⟨hroot.declaresSchema, hother (by decide), hobject⟩

/-- There is a schema declaration, and an operation that it does not name has a root type. -/
theorem rootType_mutation_partialDocuments : ∃ s : Schema,
    Schema.ofDocuments partialDocuments = .ok s ∧ DeclaresSchema partialDocuments ∧
    ∃ t, s.rootType? .mutation = some t ∧ ¬ NamesRoot partialDocuments .mutation t.name := by
  have h : ∃ s : Schema, Schema.ofDocuments partialDocuments = .ok s ∧
      (s.rootType? .mutation).isSome := ⟨_, rfl, by decide +kernel⟩
  obtain ⟨s, hs, hroot⟩ := h
  obtain ⟨t, ht⟩ := Option.isSome_iff_exists.1 hroot
  have hquery : NamesRoot partialDocuments .query "Root" :=
    namesRoot_partialDocuments_iff.2 ⟨rfl, rfl⟩
  exact ⟨s, hs, hquery.declaresSchema, t, ht, fun hname ↦
    (nomatch (namesRoot_partialDocuments_iff.1 hname).1)⟩

end GraphQLCheck
