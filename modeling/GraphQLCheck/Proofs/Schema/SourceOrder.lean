import GraphQLCheck.Proofs.Schema.Loading
import GraphQLCheck.Proofs.Schema.Lookup
import GraphQLCheck.Proofs.Schema.References

/-!
# The order of schema documents

A schema can be split over any number of documents, and its declarations can come in any order: a
type may be referred to before it is declared, and a root type may be named before it is there. This
rests on one fact about each stage. Whether declarations can be loaded does not depend on their
order (`Draft.Admits.of_perm`); what they load to are drafts with the same types and roots
(`Draft.Agrees`); and building looks types up by name only, so that it comes to the same from drafts
that agree (`Draft.Agrees.build_eq`).

What is left of the order is the order of the types of a schema, and with it that of the objects
under an interface. Everything else is the same (`Schema.Agrees`), and if the objects come in one
order then the schemas pass the test for equality (`Schema.Built.same_of_objects`).

Type extensions and directive declarations add nothing, so only the other declarations count
(`counted`). The main statement is `Schema.ofDocuments_of_perm`.
-/

namespace GraphQLCheck

/-! ### Drafts that agree -/

namespace Draft

variable {d e e' : Draft} {l l' : List Placed}

/-- Whether declarations can be loaded does not depend on their order. -/
theorem Admits.of_perm (h : l.Perm l') (hd : d.Admits l) : d.Admits l' where
  sound p hp := hd.sound p (h.mem_iff.2 hp)
  names := by
    have hnames : ((declaredTypes l).map NamedType.name).Perm
        ((declaredTypes l').map NamedType.name) := (h.filterMap _).map _
    exact (hnames.append_left _).nodup_iff.1 hd.names
  roots operation := by
    have hroots : (declaredRoots operation l).Perm (declaredRoots operation l') := h.filterMap _
    rw [List.length_append, ← hroots.length_eq, ← List.length_append]
    exact hd.roots operation

/-- Two drafts hold the same, their types in whatever order. -/
structure Agrees (d d' : Draft) : Prop where
  /-- The types are the same, each under its name. -/
  types : d.types.entries.Perm d'.types.entries
  /-- The root types that have been named are the same. -/
  roots : ∀ operation, d.root? operation = d'.root? operation

/-- Declarations in another order lead to drafts that agree. -/
theorem Extends.agrees (h : l.Perm l') (he : d.Extends l e) (he' : d.Extends l' e') :
    e.Agrees e' where
  types := by
    rw [he.types, he'.types]
    exact ((h.filterMap _).map _).append_left _
  roots operation := by
    -- there is one root type at most, so there is one order only
    have hroots : (e.root? operation).toList.Perm (e'.root? operation).toList := by
      rw [he.roots, he'.roots]
      exact (h.filterMap _).append_left _
    rcases hroot : e'.root? operation with - | root <;> rw [hroot] at hroots
    · simpa using List.perm_nil.1 hroots
    · simpa using List.perm_singleton.1 hroots

end Draft

/-! ### Building from drafts that agree -/

/-- Types in another order have the same violations, in another order. -/
theorem violations_perm {types types' : Dict NamedType} (h : types.entries.Perm types'.entries) :
    (violations types).Perm (violations types') := by
  have hget : types.get? = types'.get? := funext (Dict.perm_entries_iff.1 h)
  rw [violations, violations, (LookAlike.of_get?_eq hget).violations_eq]
  exact (h.map Prod.snd).flatMap_right _

/-- What one of two drafts that agree builds to, the other one builds to as well, up to the order of
the types. -/
theorem Draft.Agrees.build_eq {d d' : Draft} (h : d.Agrees d') {s : Schema}
    (hs : d.build = .ok s) : d'.build =
      .ok ⟨s.query, s.mutation?, s.subscription?, d'.types, possibleTypes d'.types⟩ := by
  obtain ⟨hviolations, query, mutation, subscription, hquery, hmutation, hsubscription, rfl⟩ :=
    build_eq_ok_iff.1 hs
  have hget : d.types.get? = d'.types.get? := funext (Dict.perm_entries_iff.1 h.types)
  have hnil : violations d'.types = [] := by
    have hperm := violations_perm h.types
    rw [hviolations] at hperm
    exact List.nil_perm.1 hperm
  have hroot (operation : OperationKind) : resolveRoot d'.types operation (d'.root? operation) =
      resolveRoot d.types operation (d.root? operation) := by
    rw [← h.roots, (LookAlike.of_get?_eq hget).resolveRoot_eq]
  exact build_eq_ok_iff.2 ⟨hnil, query, mutation, subscription, (hroot .query).trans hquery,
    (hroot .mutation).trans hmutation, (hroot .subscription).trans hsubscription, rfl⟩

/-! ### Schemas that agree -/

/-- The objects among some types, in order. -/
def objectTypes (types : Dict NamedType) : List NamedType :=
  types.values.filter fun t ↦ t.kind == .object

/-- Only objects are offered to an interface. -/
theorem flatMap_offers_objectTypes (types : Dict NamedType) (name : String) :
    (objectTypes types).flatMap (NamedType.offers name) =
      types.values.flatMap (NamedType.offers name) := by
  rw [objectTypes]
  induction types.values with
  | nil => rfl
  | cons t l ih =>
    by_cases hkind : t.kind = .object
    · rw [List.filter_cons_of_pos (by simp [hkind]), List.flatMap_cons, List.flatMap_cons, ih]
    · rw [List.filter_cons_of_neg (by simp [hkind]), List.flatMap_cons, ih, NamedType.offers,
        if_neg hkind, List.nil_append]

/-- Two schemas are the same but for the order of their types, and of the possible types of an
interface. -/
structure Schema.Agrees (s s' : Schema) : Prop where
  /-- Every name is the name of the same type, or of none. -/
  types : ∀ name, s.type? name = s'.type? name
  /-- Every operation has the same root type, referred to at the same place. -/
  roots : ∀ operation, s.rootRef? operation = s'.rootRef? operation
  /-- The possible types of a union are the same, in one order. -/
  unions : ∀ t ∈ s.types.values, t.kind = .union → s.possibleNames t = s'.possibleNames t
  /-- The possible types of an interface are the same, each as often. -/
  interfaces : ∀ t ∈ s.types.values, t.kind = .interface →
    (s.possibleNames t).Perm (s'.possibleNames t)

theorem Field.same_refl (f : Field) : f.same f = true := by
  have hparameters : sameParameters f.parameters f.parameters = true :=
    Dict.sameBy_beq_self Parameter.plain f.parameters
  simp [Field.same, hparameters]

theorem Shape.same_refl (shape : Shape) : shape.same shape = true := by
  have hmembers (fields : Dict Field) (interfaces : List TypeRef) :
      sameMembers fields fields interfaces interfaces = true := by
    rw [sameMembers, Dict.sameBy_self Field.same_refl, Bool.true_and]
    exact beq_self_eq_true _
  cases shape with
  | enum values => exact Dict.sameBy_beq_self EnumValue.plain values
  | input fields => exact Dict.sameBy_beq_self Parameter.plain fields
  | interface fields interfaces => exact hmembers fields interfaces
  | object fields interfaces => exact hmembers fields interfaces
  | scalar => rfl
  | union members => exact Dict.sameBy_beq_self TypeRef.plain members

theorem NamedType.same_refl (t : NamedType) : t.same t = true := by
  simp [NamedType.same, t.shape.same_refl]

/-- What the test for equality finds in two schemas that pass it: for every operation a root type of
the same name, referred to at the same place in the same file; the same names of types, whatever
their order, and types under them that pass the test for equality; and the same lists of possible
types under the same names. -/
theorem Schema.same_iff {s s' : Schema} : s.same s' = true ↔
    (∀ operation, (s.rootRef? operation).map TypeRef.plain =
      (s'.rootRef? operation).map TypeRef.plain) ∧
    (s.types.keys.Perm s'.types.keys ∧
      ∀ name t t', s.type? name = some t → s'.type? name = some t' → t.same t' = true) ∧
    ∀ name, s.possible.get? name = s'.possible.get? name := by
  have hroots : (∀ operation, (s.rootRef? operation).map TypeRef.plain =
      (s'.rootRef? operation).map TypeRef.plain) ↔
      (s.query.plain = s'.query.plain ∧
        s.mutation?.map TypeRef.plain = s'.mutation?.map TypeRef.plain) ∧
          s.subscription?.map TypeRef.plain = s'.subscription?.map TypeRef.plain := by
    refine ⟨fun h ↦ ⟨⟨Option.some.inj (h .query), h .mutation⟩, h .subscription⟩, ?_⟩
    rintro ⟨⟨hquery, hmutation⟩, hsubscription⟩ operation
    cases operation with
    | query => exact congrArg some hquery
    | mutation => exact hmutation
    | subscription => exact hsubscription
  rw [hroots, same, Bool.and_eq_true, Bool.and_eq_true, Bool.and_eq_true, Bool.and_eq_true,
    beq_iff_eq, beq_iff_eq, beq_iff_eq, Dict.sameBy_iff, Dict.sameBy_beq_iff, and_assoc]
  rfl

namespace Schema.Built

variable {s s' : Schema}

/-- Built schemas with the same types and root types agree in everything. -/
theorem agrees (hs : s.Built) (hs' : s'.Built) (htypes : s.types.entries.Perm s'.types.entries)
    (hroots : ∀ operation, s.rootRef? operation = s'.rootRef? operation) : s.Agrees s' := by
  have hvalues : s.types.values.Perm s'.types.values := htypes.map Prod.snd
  refine ⟨Dict.perm_entries_iff.1 htypes, hroots, fun t ht hkind ↦ ?_, fun t ht hkind ↦ ?_⟩
  · rw [hs.possibleNames_of_union ht hkind, hs'.possibleNames_of_union (hvalues.mem_iff.1 ht) hkind]
  · rw [hs.possibleNames_of_interface ht hkind,
      hs'.possibleNames_of_interface (hvalues.mem_iff.1 ht) hkind]
    exact hvalues.flatMap_right _

/-- With the objects in one order, the indexes of possible types are the same. -/
theorem get?_possible_eq (hs : s.Built) (hs' : s'.Built)
    (htypes : s.types.entries.Perm s'.types.entries)
    (hobjects : objectTypes s.types = objectTypes s'.types) (name : String) :
    s.possible.get? name = s'.possible.get? name := by
  have hvalues : s.types.values.Perm s'.types.values := htypes.map Prod.snd
  refine Dict.get?_eq_of_listAt ?_ ?_
  · -- an empty list in the index is not the same as none, so the names are compared as well
    rw [hs.possible_eq, hs'.possible_eq, contains_possibleTypes, contains_possibleTypes]
    exact hvalues.any_eq
  · -- the list of a union is set once and for all; any other list follows the objects
    by_cases hunion : ∃ u ∈ s.types.values, u.name = name ∧ u.kind = .union
    · obtain ⟨u, hu, rfl, hkind⟩ := hunion
      rw [hs.listAt_union hu hkind, hs'.listAt_union (hvalues.mem_iff.1 hu) hkind]
    · have hname : ∀ t ∈ s.types.values, t.name = name → t.kind ≠ .union := fun t ht hname hkind ↦
        hunion ⟨t, ht, hname, hkind⟩
      rw [hs.listAt_of_not_union hname,
        hs'.listAt_of_not_union fun t ht ↦ hname t (hvalues.mem_iff.2 ht),
        ← flatMap_offers_objectTypes, hobjects, flatMap_offers_objectTypes]

/-- Built schemas with the same types, the objects among them in one order, and with the same root
types pass the test for equality. -/
theorem same_of_objects (hs : s.Built) (hs' : s'.Built)
    (htypes : s.types.entries.Perm s'.types.entries)
    (hroots : ∀ operation, s.rootRef? operation = s'.rootRef? operation)
    (hobjects : objectTypes s.types = objectTypes s'.types) : s.same s' = true := by
  refine same_iff.2 ⟨fun operation ↦ congrArg _ (hroots operation), ⟨htypes.map Prod.fst, ?_⟩,
    hs.get?_possible_eq hs' htypes hobjects⟩
  intro name t t' ht ht'
  rw [type?, Dict.perm_entries_iff.1 htypes name] at ht
  rw [Option.some.inj (ht.symm.trans ht')]
  exact t'.same_refl

end Schema.Built

/-! ### Declarations that count -/

/-- The kind of type that is declared. -/
def TypeBody.kind : TypeBody → Kind
  | .enum _ => .enum
  | .input _ => .inputObject
  | .interface _ _ => .interface
  | .object _ _ => .object
  | .scalar => .scalar
  | .union _ => .union

/-- A type is of the kind that its declaration says. -/
theorem NamedType.kind_of_ofDecl {file : Option String} {decl : TypeDecl} {t : NamedType}
    (h : NamedType.ofDecl file decl = .ok t) : t.kind = decl.body.kind := by
  obtain ⟨shape, hshape, ht⟩ := bind_eq_ok_iff.1 h
  rw [← Except.ok.inj ht]
  rw [Shape.ofDecl] at hshape
  cases hbody : decl.body <;> rw [hbody] at hshape
  case interface interfaces fields | object interfaces fields =>
    obtain ⟨fields', -, hshape⟩ := bind_eq_ok_iff.1 hshape
    rw [← Except.ok.inj hshape]
    rfl
  all_goals
    rw [← Except.ok.inj hshape]
    rfl

namespace Placed

/-- Whether a declaration counts: type extensions and directive declarations do not. -/
def counts (p : Placed) : Bool :=
  match p.declaration with
  | .schema _ | .type _ => true
  | .extension _ | .directive _ => false

/-- Whether an object is declared. -/
def declaresObject (p : Placed) : Bool :=
  match p.declaration with
  | .type decl => decl.body.kind == .object
  | _ => false

theorem addPlaced_of_not_counts {p : Placed} (h : p.counts = false) (d : Draft) :
    d.addPlaced p = .ok d := by
  obtain ⟨file?, declaration⟩ := p
  cases declaration with
  | schema decl => exact nomatch h
  | type decl => exact nomatch h
  | extension name => rfl
  | directive name => rfl

theorem declaresObject_of_type? {p : Placed} {t : NamedType} (h : p.type? = some t) :
    p.declaresObject = (t.kind == .object) := by
  obtain ⟨decl, hdecl, hofDecl⟩ := type?_eq_some_iff.1 h
  rw [declaresObject, hdecl, NamedType.kind_of_ofDecl hofDecl]

end Placed

/-- The declarations of some documents that count, in order. -/
def counted (docs : List SchemaDocument) : List Placed := (placedIn docs).filter Placed.counts

/-- The declarations of objects in some documents, in order. -/
def declaredObjects (docs : List SchemaDocument) : List Placed :=
  (placedIn docs).filter Placed.declaresObject

/-- Leaving out what does not count makes no difference to loading. -/
theorem Draft.foldlM_filter_counts (d : Draft) (l : List Placed) :
    (l.filter Placed.counts).foldlM addPlaced d = l.foldlM addPlaced d := by
  induction l generalizing d with
  | nil => rfl
  | cons p l ih =>
    cases hcounts : p.counts with
    | true =>
      rw [List.filter_cons_of_pos hcounts, List.foldlM_cons, List.foldlM_cons]
      exact bind_congr ih
    | false =>
      rw [List.filter_cons_of_neg (by simp [hcounts]), List.foldlM_cons,
        Placed.addPlaced_of_not_counts hcounts]
      exact ih d

/-- The objects among the declared types come from the declarations of objects. -/
theorem filter_declaredTypes (l : List Placed) :
    (declaredTypes l).filter (fun t ↦ t.kind == .object) =
      declaredTypes (l.filter Placed.declaresObject) := by
  rw [declaredTypes, declaredTypes, List.filter_filterMap, List.filterMap_filter]
  refine List.filterMap_congr fun p _ ↦ ?_
  cases htype : p.type? with
  | none => simp
  | some t =>
    rw [Placed.declaresObject_of_type? htype, Option.filter_some]

/-! ### Documents in another order -/

namespace Schema

variable {docs docs' : List SchemaDocument} {s s' : Schema}

/-- A schema comes from the declarations that count. -/
theorem ofDocuments_eq (docs : List SchemaDocument) :
    ofDocuments docs = (counted docs).foldlM Draft.addPlaced .empty >>= Draft.build := by
  rw [ofDocuments, Draft.loadDocuments_eq_foldlM, counted, Draft.foldlM_filter_counts]

theorem ofDocuments_eq_ok_iff : ofDocuments docs = .ok s ↔
    ∃ d, (counted docs).foldlM Draft.addPlaced .empty = .ok d ∧ d.build = .ok s := by
  rw [ofDocuments_eq, bind_eq_ok_iff]

/-- The objects of a schema are those that are declared, in order. -/
theorem objectTypes_of_ofDocuments (h : ofDocuments docs = .ok s) :
    objectTypes s.types = declaredTypes (declaredObjects docs) := by
  obtain ⟨d, hd, hs⟩ := bind_eq_ok_iff.1 h
  obtain ⟨-, _, _, _, -, -, -, rfl⟩ := Draft.build_eq_ok_iff.1 hs
  rw [Draft.loadDocuments_eq_foldlM] at hd
  -- the built-in types come first, and there is no object among them
  have hvalues := (Draft.extends_of_foldlM hd).values
  have hbuiltIn : Draft.empty.types.values.filter (fun t ↦ t.kind == .object) = [] := by decide
  rw [objectTypes, hvalues, List.filter_append, hbuiltIn, List.nil_append, filter_declaredTypes]
  rfl

/-- Documents whose declarations come in another order have a schema as well, which differs in the
order of the types only. -/
theorem exists_ofDocuments_of_perm (h : (counted docs).Perm (counted docs'))
    (hs : ofDocuments docs = .ok s) : ∃ s', ofDocuments docs' = .ok s' ∧
      s.types.entries.Perm s'.types.entries ∧
      ∀ operation, s.rootRef? operation = s'.rootRef? operation := by
  obtain ⟨d, hd, hbuild⟩ := ofDocuments_eq_ok_iff.1 hs
  have hadmits : Draft.empty.Admits (counted docs) := Draft.exists_foldlM_iff.1 ⟨d, hd⟩
  obtain ⟨d', hd'⟩ := Draft.exists_foldlM_iff.2 (hadmits.of_perm h)
  have hagrees : d.Agrees d' :=
    Draft.Extends.agrees h (Draft.extends_of_foldlM hd) (Draft.extends_of_foldlM hd')
  refine ⟨_, ofDocuments_eq_ok_iff.2 ⟨d', hd', hagrees.build_eq hbuild⟩, ?_, fun operation ↦ ?_⟩
  · obtain ⟨-, _, _, _, -, -, -, rfl⟩ := Draft.build_eq_ok_iff.1 hbuild
    exact hagrees.types
  · cases operation <;> rfl

/-- **The order of documents.** Take documents whose declarations, type extensions and directive
declarations apart, are the same in some order, in the same files but cut in whatever way. Either
all of them have a schema or none, and the schemas agree; with the declarations of objects in one
order, the schemas pass the test for equality and list the same possible types in one order. With
all declarations that count in one order the outcome is the same, be it a schema or an error: type
extensions and directive declarations can stand anywhere. -/
theorem ofDocuments_of_perm (h : (counted docs).Perm (counted docs')) :
    ((∃ s, ofDocuments docs = .ok s) ↔ ∃ s', ofDocuments docs' = .ok s') ∧
    (∀ s s', ofDocuments docs = .ok s → ofDocuments docs' = .ok s' →
      s.Agrees s' ∧ (declaredObjects docs = declaredObjects docs' →
        s.same s' = true ∧ ∀ t, s.possibleNames t = s'.possibleNames t)) ∧
    (counted docs = counted docs' → ofDocuments docs = ofDocuments docs') := by
  refine ⟨⟨?_, ?_⟩, fun s s' hs hs' ↦ ?_, fun heq ↦ ?_⟩
  · rintro ⟨s, hs⟩
    obtain ⟨s', hs', -, -⟩ := exists_ofDocuments_of_perm h hs
    exact ⟨s', hs'⟩
  · rintro ⟨s', hs'⟩
    obtain ⟨s, hs, -, -⟩ := exists_ofDocuments_of_perm h.symm hs'
    exact ⟨s, hs⟩
  · -- the schema that the other documents must have is the one that they do have
    obtain ⟨s₁, hs₁, htypes, hroots⟩ := exists_ofDocuments_of_perm h hs
    obtain rfl : s₁ = s' := Except.ok.inj (hs₁.symm.trans hs')
    have hbuilt := built_of_ofDocuments hs
    have hbuilt' := built_of_ofDocuments hs'
    refine ⟨hbuilt.agrees hbuilt' htypes hroots, fun hobjects ↦ ?_⟩
    have horder : objectTypes s.types = objectTypes s₁.types := by
      rw [objectTypes_of_ofDocuments hs, objectTypes_of_ofDocuments hs', hobjects]
    refine ⟨hbuilt.same_of_objects hbuilt' htypes hroots horder, fun t ↦ ?_⟩
    rw [possibleNames, possibleNames, hbuilt.get?_possible_eq hbuilt' htypes horder]
  · rw [ofDocuments_eq, ofDocuments_eq, heq]

end Schema

/-- A schema in two files. -/
def petDocuments : List SchemaDocument :=
  [⟨some "pet.graphql", petDeclarations.take 3⟩, ⟨some "rest.graphql", petDeclarations.drop 3⟩]

/-- The same in three files, where schema declarations name the root types one by one. -/
def rootedPetDocuments : List SchemaDocument :=
  ⟨some "roots.graphql", [.schema ⟨⟨1, 1⟩, some "Query", none, none⟩,
    .schema ⟨⟨2, 1⟩, none, some "Mutation", none⟩]⟩ :: petDocuments

/-- The three files the other way round, and with declarations that do not count. -/
def swappedPetDocuments : List SchemaDocument :=
  [⟨some "rest.graphql", .directive "since" :: petDeclarations.drop 3⟩,
    ⟨some "pet.graphql", petDeclarations.take 3 ++ [.extension "Pet"]⟩] ++
      rootedPetDocuments.take 1

/-- The three files with the interface before all else, and with the schema declarations after two
of the types. -/
def sortedPetDocuments : List SchemaDocument :=
  [⟨some "pet.graphql", (petDeclarations.drop 2).take 1⟩,
    ⟨some "pet.graphql", petDeclarations.take 2⟩] ++ rootedPetDocuments.take 1 ++
      petDocuments.drop 1

theorem ofDocuments_petDocuments : ∃ s s' s'' : Schema,
    Schema.ofDocuments rootedPetDocuments = .ok s ∧
    Schema.ofDocuments swappedPetDocuments = .ok s' ∧
    Schema.ofDocuments sortedPetDocuments = .ok s'' ∧ s.Agrees s' ∧
    s.mutation? = some ⟨"Mutation", .written (some "roots.graphql") ⟨2, 1⟩⟩ ∧
    s.same s'' = true ∧ (∀ t, s.possibleNames t = s''.possibleNames t) ∧
    Schema.ofDocuments rootedPetDocuments.reverse = Schema.ofDocuments swappedPetDocuments ∧
    s.possible.get? "Pet" = some ["Cat", "Dog"] ∧ s'.possible.get? "Pet" = some ["Dog", "Cat"] := by
  have h : ∃ s s' s'' : Schema, Schema.ofDocuments rootedPetDocuments = .ok s ∧
      Schema.ofDocuments swappedPetDocuments = .ok s' ∧
      Schema.ofDocuments sortedPetDocuments = .ok s'' ∧
      s.mutation? = some ⟨"Mutation", .written (some "roots.graphql") ⟨2, 1⟩⟩ ∧
      s.possible.get? "Pet" = some ["Cat", "Dog"] ∧ s'.possible.get? "Pet" = some ["Dog", "Cat"] :=
    ⟨_, _, _, rfl, rfl, rfl, by decide +kernel⟩
  obtain ⟨s, s', s'', hs, hs', hs'', hmutation, hpossible⟩ := h
  have hswapped : (counted rootedPetDocuments).Perm (counted swappedPetDocuments) :=
    (rootedPetDocuments.reverse_perm.symm.flatMap_right SchemaDocument.placed).filter _
  have hsorted : (counted rootedPetDocuments).Perm (counted sortedPetDocuments) :=
    (((sortedPetDocuments.take 3).reverse_perm.flatMap_right SchemaDocument.placed).append_right
      (petDocuments.drop 1 |>.flatMap SchemaDocument.placed)).filter _
  obtain ⟨hsame, hnames⟩ := ((Schema.ofDocuments_of_perm hsorted).2.1 s s'' hs hs'').2 rfl
  exact ⟨s, s', s'', hs, hs', hs'', ((Schema.ofDocuments_of_perm hswapped).2.1 s s' hs hs').1,
    hmutation, hsame, hnames, (Schema.ofDocuments_of_perm (.refl _)).2.2 rfl, hpossible⟩

end GraphQLCheck
