import GraphQLCheck.NamedType.Json
import GraphQLCheck.Proofs.Dict
import GraphQLCheck.Proofs.Json.Reordering

/-!
# Types from their JSON forms

A type is read back from its JSON form (`NamedType.roundTrip`). This is shown from the inside out:
positions, locations, references, annotations of any depth, parameters and enum values come back as
they were, whatever order the members of their objects are in (`Annotation.recovers` and its like).
A dictionary is an object, so its entries may come back in another order; then it passes the test
for equality with the old one (`Dict.recovers`), and so do fields and types, which hold
dictionaries. Only in its own order does a dictionary come back exactly (`Dict.ofJson?_toJson`),
which is why fields, shapes and types each have a lemma for either case.

No object of the form has two members of one name (`NamedType.distinct`). For the entries of
dictionaries this is what makes them dictionaries.
-/

namespace GraphQLCheck

open Json

/-! ### No name twice -/

/-- No object in a position has a name twice. -/
theorem Position.distinct (p : Position) : Distinct p.toJson :=
  .object (by simp) (by simp [Distinct.number])

theorem Location.distinct : ∀ l : Location, Distinct l.toJson
  | .builtIn => .string _
  | .written file position =>
    have hbody : Distinct (.object [("file", .ofOption file), ("position", position.toJson)]) :=
      .object (by simp) (by simp [distinct_ofOption, position.distinct])
    .object (by simp) (by simp [hbody])

theorem TypeRef.distinct (r : TypeRef) : Distinct r.toJson :=
  .object (by simp) (by simp [Distinct.string, Distinct.null, r.location.distinct])

theorem Annotation.distinct (a : Annotation) : Distinct a.toJson := by
  induction a with
  | named nullable ref =>
    have hbody : Distinct (.object [("nullable", .bool nullable), ("type_ref", ref.toJson)]) :=
      .object (by simp) (by simp [Distinct.bool, ref.distinct])
    exact .object (by simp) (by simp [hbody])
  | list nullable location inner ih =>
    have hbody : Distinct (.object [("inner_type_ref", inner.toJson), ("nullable", .bool nullable),
        ("ref_location", location.toJson)]) :=
      .object (by simp) (by simp [Distinct.bool, location.distinct, ih])
    exact .object (by simp) (by simp [hbody])

theorem Parameter.distinct (p : Parameter) : Distinct p.toJson :=
  .object (by simp) (by
    simp [Distinct.string, distinct_ofOption, p.location.distinct, p.annotation.distinct])

theorem EnumValue.distinct (v : EnumValue) : Distinct v.toJson :=
  .object (by simp) (by simp [Distinct.string, distinct_ofOption, v.location.distinct])

/-- The names of a dictionary are different. -/
theorem Dict.distinct {α : Type} {write : α → Json} (h : ∀ a, Distinct (write a)) (d : Dict α) :
    Distinct (d.toJson write) := by
  refine .object (by simpa [Function.comp_def] using d.nodup) fun m hm ↦ ?_
  obtain ⟨e, -, rfl⟩ := List.mem_map.1 hm
  exact h e.2

/-- No object in a field or in its parameters has a name twice. -/
theorem Field.distinct (f : Field) : Distinct f.toJson :=
  .object (by simp) (by
    simp [Distinct.string, distinct_ofOption, f.location.distinct, f.annotation.distinct,
      Dict.distinct Parameter.distinct])

/-- No object in the members of a shape has a name twice. -/
theorem Shape.distinct {shape : Shape} : ∀ m ∈ shape.toMembers, Distinct m.2 := by
  have hinterfaces (interfaces : List TypeRef) :
      Distinct (.array (interfaces.map TypeRef.toJson)) :=
    .array (by simp [TypeRef.distinct])
  cases shape <;>
    simp [toMembers, hinterfaces, Dict.distinct Parameter.distinct, Dict.distinct Field.distinct,
      Dict.distinct EnumValue.distinct, Dict.distinct TypeRef.distinct]

/-! ### Reading back -/

/-- A position is read back. -/
theorem Position.recovers (p : Position) : Recovers ofJson? p.toJson (· = p) := by
  intro k hk
  refine ⟨p, ?_, rfl⟩
  rw [ofJson?, (recovers_asNat? p.line).field?_eq hk "line" rfl,
    (recovers_asNat? p.col).field?_eq hk "col" rfl]
  rfl

theorem Location.recovers (l : Location) : Recovers ofJson? l.toJson (· = l) := by
  intro k hk
  refine ⟨l, ?_, rfl⟩
  cases l with
  | builtIn =>
    cases hk
    rfl
  | written file position =>
    obtain ⟨body, rfl, hbody⟩ := hk.exists_variant
    have hfile := (recovers_asOption? file).field?_eq hbody "file" rfl
    have hposition := position.recovers.field?_eq hbody "position" rfl
    simp only [ofJson?, variant?, Option.bind_eq_bind, Option.bind_some, if_true, hfile, hposition]
    rfl

theorem TypeRef.recovers (r : TypeRef) : Recovers ofJson? r.toJson (· = r) := by
  intro k hk
  refine ⟨r, ?_, rfl⟩
  rw [ofJson?, (recovers_asString? r.name).field?_eq hk "name" rfl,
    recovers_asNull?.field?_eq hk "phantom" rfl,
    r.location.recovers.field?_eq hk "ref_location" rfl]
  rfl

namespace Annotation

/-- The annotation inside of a list is read like any other member. -/
theorem ofMembers?_eq_field? (members : List (String × Json)) :
    ofMembers? members = (Json.object members).field? "inner_type_ref" ofJson? := by
  rw [Json.field?, Json.member?]
  induction members with
  | nil => rfl
  | cons m members ih =>
    obtain ⟨key, j⟩ := m
    rw [ofMembers?, ih, Dict.lookup_entry]
    split <;> rfl

/-- An annotation comes back as it was, however deep its lists are. -/
theorem recovers (a : Annotation) : Recovers ofJson? a.toJson (· = a) := by
  induction a with
  | named nullable ref =>
    intro k hk
    refine ⟨_, ?_, rfl⟩
    obtain ⟨body, rfl, hbody⟩ := hk.exists_variant
    -- the members are read while they are a body still; then the reader asks for an object
    have hnullable := (recovers_asBool? nullable).field?_eq hbody "nullable" rfl
    have href := ref.recovers.field?_eq hbody "type_ref" rfl
    obtain ⟨members, rfl, -⟩ :=
      hbody.exists_object (by decide : ["nullable", "type_ref"].Nodup)
    simp only [ofJson?, hnullable, href]
    rfl
  | list nullable location inner ih =>
    intro k hk
    refine ⟨_, ?_, rfl⟩
    obtain ⟨body, rfl, hbody⟩ := hk.exists_variant
    have hinner := ih.field?_eq hbody "inner_type_ref" rfl
    have hnullable := (recovers_asBool? nullable).field?_eq hbody "nullable" rfl
    have hlocation := location.recovers.field?_eq hbody "ref_location" rfl
    obtain ⟨members, rfl, -⟩ :=
      hbody.exists_object (by decide : ["inner_type_ref", "nullable", "ref_location"].Nodup)
    simp only [ofJson?, ofMembers?_eq_field?, hinner, hnullable, hlocation]
    rfl

end Annotation

/-- A parameter is read back. -/
theorem Parameter.recovers (p : Parameter) : Recovers ofJson? p.toJson (· = p) := by
  intro k hk
  refine ⟨p, ?_, rfl⟩
  rw [ofJson?, (recovers_asString? p.name).field?_eq hk "name" rfl,
    p.annotation.recovers.field?_eq hk "type_annotation" rfl,
    (recovers_asOption? p.default?).field?_eq hk "default_value" rfl,
    (recovers_asOption? p.description?).field?_eq hk "description" rfl,
    p.location.recovers.field?_eq hk "def_location" rfl]
  rfl

theorem EnumValue.recovers (v : EnumValue) : Recovers ofJson? v.toJson (· = v) := by
  intro k hk
  refine ⟨v, ?_, rfl⟩
  rw [ofJson?, (recovers_asString? v.name).field?_eq hk "name" rfl,
    (recovers_asOption? v.description?).field?_eq hk "description" rfl,
    v.location.recovers.field?_eq hk "def_location" rfl]
  rfl

/-! ### Dictionaries -/

namespace Dict

variable {α : Type} {write : α → Json} {read : Json → Option α} {d : Dict α}

/-- The dictionary of an object is read member by member. -/
theorem ofJson?_object {members : List (String × Json)}
    (h : List.Forall₂ (fun m e ↦ m.1 = e.1 ∧ read m.2 = some e.2) members d.entries) :
    Dict.ofJson? read (.object members) = some d := by
  refine Option.bind_eq_some_iff.2
    ⟨d.entries, mapM_eq_some_iff.2 (h.imp ?_), congrArg some (ofList_entries d)⟩
  rintro ⟨key, j⟩ ⟨_, a⟩ ⟨rfl, hread⟩
  simp only [hread, Option.map_some]

/-- In its own order, a dictionary is read back as it was. -/
theorem ofJson?_toJson (h : ∀ a, read (write a) = some a) (d : Dict α) :
    Dict.ofJson? read (d.toJson write) = some d := by
  refine ofJson?_object ?_
  rw [List.forall₂_map_left_iff, List.forall₂_same]
  exact fun e _ ↦ ⟨rfl, h e.2⟩

/-- In another order, a dictionary is read as one with the same names, in another order, each for a
value that the reader takes for the old one. -/
theorem recovers {same : α → α → Bool} (h : ∀ a, Recovers read (write a) (same a · = true))
    (d : Dict α) : Recovers (Dict.ofJson? read) (d.toJson write) (d.sameBy same · = true) := by
  intro k hk
  have hkeys : (d.entries.map fun e ↦ (e.1, write e.2)).map Prod.fst = d.keys := by
    rw [List.map_map]
    rfl
  obtain ⟨members, rfl, perm, hmembers⟩ := hk.exists_object (hkeys ▸ d.nodup)
  rw [hkeys] at perm
  -- each member of the object stands for an entry of the dictionary, with the same name
  have hread : ∀ m ∈ members, ∃ e : String × α, (m.1 = e.1 ∧ read m.2 = some e.2) ∧
      ∃ a, d.get? e.1 = some a ∧ same a e.2 = true := by
    rintro ⟨key, j⟩ hm
    obtain ⟨⟨_, a⟩, ha, rfl⟩ := List.mem_map.1 (perm.mem_iff.2 (List.mem_map_of_mem hm))
    have hj : Reordered (write a) j := hmembers _ _ _ (List.mem_map_of_mem ha) hm
    obtain ⟨b, hb, hsame⟩ := h a j hj
    exact ⟨(_, b), ⟨rfl, hb⟩, a, get?_eq_some_iff.2 ha, hsame⟩
  obtain ⟨entries, hentries⟩ := exists_forall₂ hread
  have hnames : members.map Prod.fst = entries.map Prod.fst := by
    rw [← List.forall₂_eq_eq_eq, List.forall₂_map_left_iff, List.forall₂_map_right_iff]
    exact hentries.imp fun m e h ↦ h.1.1
  rw [hnames] at perm
  obtain ⟨e, rfl⟩ : ∃ e : Dict α, e.entries = entries :=
    ⟨⟨entries, perm.nodup_iff.1 d.keys_nodup⟩, rfl⟩
  refine ⟨e, ofJson?_object (hentries.imp fun m e h ↦ h.1),
    sameBy_of_keys_perm perm fun key b hb ↦ ?_⟩
  have hall : ∀ e' ∈ e.entries, ∃ a, d.get? e'.1 = some a ∧ same a e'.2 = true :=
    ((List.forall₂_and_left e.entries members).1
      (hentries.flip.imp fun e' m h ↦ ⟨h.2, h.1⟩)).1
  exact hall _ (get?_eq_some_iff.1 hb)

/-- A dictionary of values that come back as they were comes back as it was, but for the order. -/
theorem recovers_of_exact {β : Type} [BEq β] [ReflBEq β] (plain : α → β)
    (h : ∀ a, Recovers read (write a) (· = a)) (d : Dict α) :
    Recovers (Dict.ofJson? read) (d.toJson write)
      (d.sameBy (fun a b ↦ plain a == plain b) · = true) := by
  refine recovers (fun a ↦ (h a).mono ?_) d
  rintro _ rfl
  exact beq_self_eq_true _

end Dict

/-! ### Fields -/

/-- The parameters of a field, or the fields of an input object, are read back as they were. -/
theorem Parameter.ofJson?_toJson_all (parameters : Dict Parameter) :
    Dict.ofJson? Parameter.ofJson? (parameters.toJson Parameter.toJson) = some parameters :=
  Dict.ofJson?_toJson (fun p ↦ p.recovers.read_eq) parameters

/-- Parameters are read back, perhaps in another order. -/
theorem Parameter.recovers_all (parameters : Dict Parameter) :
    Recovers (Dict.ofJson? Parameter.ofJson?) (parameters.toJson Parameter.toJson)
      (sameParameters parameters · = true) :=
  Dict.recovers_of_exact Parameter.plain Parameter.recovers parameters

namespace Field

/-- All but the parameters of a field come back as they were. -/
theorem ofJson?_of_parameters {f : Field} {k : Json} {parameters : Dict Parameter}
    (hk : Reordered f.toJson k)
    (hparameters : k.field? "parameters" (Dict.ofJson? Parameter.ofJson?) = some parameters) :
    ofJson? k = some { f with parameters } := by
  rw [ofJson?, (recovers_asString? f.name).field?_eq hk "name" rfl,
    (recovers_asString? f.parent).field?_eq hk "parent_type_name" rfl,
    f.annotation.recovers.field?_eq hk "type_annotation" rfl, hparameters,
    (recovers_asOption? f.description?).field?_eq hk "description" rfl,
    f.location.recovers.field?_eq hk "def_location" rfl]
  rfl

theorem ofJson?_toJson (f : Field) : ofJson? f.toJson = some f :=
  ofJson?_of_parameters (.refl _) (Parameter.ofJson?_toJson_all f.parameters)

/-- A field is read back as one that is the same. -/
theorem recovers (f : Field) : Recovers ofJson? f.toJson (f.same · = true) := by
  intro k hk
  obtain ⟨parameters, hparameters, hsame⟩ :=
    (Parameter.recovers_all f.parameters).field? hk "parameters" rfl
  exact ⟨_, ofJson?_of_parameters hk hparameters, by simp [same, hsame]⟩

end Field

/-! ### Shapes -/

section Shape

variable {t : NamedType} {members : List (String × Json)} {k : Json}

/-- In its own order, what a type holds is read back as it was from an object that has the members
for it. -/
theorem Shape.ofJson?_of_lookup (h : ∀ m ∈ t.shape.toMembers, members.lookup m.1 = some m.2) :
    Shape.ofJson? t.kind (.object members) = some t.shape := by
  have hfields (fields : Dict Field) :
      Dict.ofJson? Field.ofJson? (fields.toJson Field.toJson) = some fields :=
    Dict.ofJson?_toJson Field.ofJson?_toJson fields
  have hvalues (values : Dict EnumValue) :
      Dict.ofJson? EnumValue.ofJson? (values.toJson EnumValue.toJson) = some values :=
    Dict.ofJson?_toJson (fun v ↦ v.recovers.read_eq) values
  have hmembers (members : Dict TypeRef) :
      Dict.ofJson? TypeRef.ofJson? (members.toJson TypeRef.toJson) = some members :=
    Dict.ofJson?_toJson (fun r ↦ r.recovers.read_eq) members
  have hinterfaces (interfaces : List TypeRef) :
      items? TypeRef.ofJson? (.array (interfaces.map TypeRef.toJson)) = some interfaces :=
    (Recovers.items? TypeRef.recovers interfaces).read_eq
  obtain ⟨name, description, location, shape⟩ := t
  cases shape <;> simp only [toMembers, List.forall_mem_cons] at h <;>
    simp [NamedType.kind, ofJson?, Json.field?, member?, h, hfields, hvalues, hmembers, hinterfaces,
      Parameter.ofJson?_toJson_all]

/-- In another order, what a type holds is read as the same, up to the order of dictionaries. -/
theorem Shape.exists_ofJson?_of_reordered (hk : Reordered (.object members) k)
    (h : ∀ m ∈ t.shape.toMembers, members.lookup m.1 = some m.2) :
    ∃ shape, Shape.ofJson? t.kind k = some shape ∧ t.shape.same shape = true := by
  have hmembers (fields : Dict Field) (interfaces : List TypeRef)
      (hfields : members.lookup "fields" = some (fields.toJson Field.toJson))
      (hinterfaces : members.lookup "interfaces" =
        some (.array (interfaces.map TypeRef.toJson))) :
      ∃ fields', k.field? "fields" (Dict.ofJson? Field.ofJson?) = some fields' ∧
        k.field? "interfaces" (items? TypeRef.ofJson?) = some interfaces ∧
        sameMembers fields fields' interfaces interfaces = true := by
    obtain ⟨fields', hfields', hsame⟩ :=
      (Dict.recovers Field.recovers fields).field? hk "fields" hfields
    refine ⟨fields', hfields',
      (Recovers.items? TypeRef.recovers interfaces).field?_eq hk "interfaces" hinterfaces, ?_⟩
    rw [sameMembers, hsame, beq_self_eq_true, Bool.and_self]
  obtain ⟨name, description, location, shape⟩ := t
  cases shape with
  | enum values =>
    obtain ⟨values', hread, hsame⟩ :=
      (Dict.recovers_of_exact EnumValue.plain EnumValue.recovers values).field? hk "values"
        (h _ List.mem_cons_self)
    exact ⟨.enum values', by simp [NamedType.kind, ofJson?, hread], hsame⟩
  | input fields =>
    obtain ⟨fields', hread, hsame⟩ :=
      (Parameter.recovers_all fields).field? hk "fields" (h _ List.mem_cons_self)
    exact ⟨.input fields', by simp [NamedType.kind, ofJson?, hread], hsame⟩
  | interface fields interfaces =>
    obtain ⟨fields', hread, hinterfaces, hsame⟩ := hmembers fields interfaces
      (h _ List.mem_cons_self) (h _ (List.mem_cons_of_mem _ List.mem_cons_self))
    exact ⟨.interface fields' interfaces,
      by simp [NamedType.kind, ofJson?, hread, hinterfaces], hsame⟩
  | object fields interfaces =>
    obtain ⟨fields', hread, hinterfaces, hsame⟩ := hmembers fields interfaces
      (h _ List.mem_cons_self) (h _ (List.mem_cons_of_mem _ List.mem_cons_self))
    exact ⟨.object fields' interfaces,
      by simp [NamedType.kind, ofJson?, hread, hinterfaces], hsame⟩
  | scalar => exact ⟨.scalar, rfl, rfl⟩
  | union refs =>
    obtain ⟨refs', hread, hsame⟩ :=
      (Dict.recovers_of_exact TypeRef.plain TypeRef.recovers refs).field? hk "members"
        (h _ List.mem_cons_self)
    exact ⟨.union refs', by simp [NamedType.kind, ofJson?, hread], hsame⟩

end Shape

/-! ### Types -/

namespace NamedType

variable {t : NamedType}

/-- No member of a type is written twice. -/
theorem nodup_toMembers (t : NamedType) : (t.toMembers.map Prod.fst).Nodup := by
  obtain ⟨name, description, location, shape⟩ := t
  cases shape <;> simp [toMembers, Shape.toMembers]

/-- A member of the shape is found among those of the type. -/
theorem lookup_toMembers {m : String × Json} (hm : m ∈ t.shape.toMembers) :
    t.toMembers.lookup m.1 = some m.2 :=
  (Dict.get?_eq_some_iff (d := ⟨t.toMembers, t.nodup_toMembers⟩)).2 (List.mem_append_right _ hm)

/-- All but what a type holds comes back as it was. -/
theorem ofJson?_of_shape {body : Json} {shape : Shape}
    (hbody : Reordered (.object t.toMembers) body)
    (hshape : Shape.ofJson? t.kind body = some shape) :
    ofJson? (.object [(t.kind.name, body)]) = some { t with shape } := by
  simp only [ofJson?, variant?, Option.bind_eq_bind, Option.bind_some, Kind.ofName?_name,
    (recovers_asString? t.name).field?_eq hbody "name" rfl,
    (recovers_asOption? t.description?).field?_eq hbody "description" rfl,
    t.location.recovers.field?_eq hbody "def_location" rfl, hshape]
  rfl

/-- A type is read back as one that is the same. -/
theorem recovers (t : NamedType) : Recovers ofJson? t.toJson (t.same · = true) := by
  intro k hk
  obtain ⟨body, rfl, hbody⟩ := hk.exists_variant
  obtain ⟨shape, hshape, hsame⟩ := Shape.exists_ofJson?_of_reordered hbody fun _ ↦ lookup_toMembers
  exact ⟨_, ofJson?_of_shape hbody hshape, by simp [same, hsame]⟩

/-- In its own order, a type is read back as it was. -/
theorem ofJson?_toJson (t : NamedType) : ofJson? t.toJson = some t :=
  ofJson?_of_shape (.refl _) (Shape.ofJson?_of_lookup fun _ ↦ lookup_toMembers)

/-- No object in the form has two members of one name, at whatever depth. -/
theorem distinct (t : NamedType) : Distinct t.toJson := by
  have hbody : Distinct (.object t.toMembers) := by
    refine .object t.nodup_toMembers (List.forall_mem_append.2 ⟨?_, fun _ ↦ Shape.distinct _⟩)
    simp [Distinct.string, distinct_ofOption, t.location.distinct]
  exact .object (by simp) (by simp [hbody])

/-- **Types from their JSON forms.** A type is read back from its JSON form exactly as it was. No
object in the form has two members of one name, and if members come in another order, be they those
of a type or the entries of a dictionary, then the same type is read up to the order of its
dictionaries. So types with one JSON form are one type, and types whose forms differ in the order of
members are the same. -/
theorem roundTrip (t : NamedType) :
    ofJson? t.toJson = some t ∧ Distinct t.toJson ∧
    (∀ j, Reordered t.toJson j → ∃ u, ofJson? j = some u ∧ t.same u = true) ∧
    (∀ u : NamedType, u.toJson = t.toJson → u = t) ∧
    ∀ u : NamedType, Reordered t.toJson u.toJson → t.same u = true := by
  refine ⟨t.ofJson?_toJson, t.distinct, t.recovers, fun u hu ↦ ?_, fun u hu ↦ ?_⟩
  · have hread : some u = some t := by rw [← u.ofJson?_toJson, hu, t.ofJson?_toJson]
    exact Option.some.inj hread
  · obtain ⟨v, hv, hsame⟩ := t.recovers u.toJson hu
    rw [u.ofJson?_toJson] at hv
    rwa [Option.some.inj hv]

end NamedType

/-- A reference in a file. -/
def petRef (name : String) (line : Nat) : TypeRef :=
  ⟨name, .written (some "pet.graphql") ⟨line, 3⟩⟩

/-- A union. -/
def petUnion : NamedType :=
  ⟨"Pet", some "Who lives here.", .written (some "pet.graphql") ⟨1, 1⟩,
    .union (.ofList [("Cat", petRef "Cat" 2), ("Dog", petRef "Dog" 3)])⟩

/-- The same union with its members the other way round. -/
def swappedPetUnion : NamedType :=
  { petUnion with shape := .union (.ofList [("Dog", petRef "Dog" 3), ("Cat", petRef "Cat" 2)]) }

theorem NamedType.roundTrip_petUnion :
    Reordered petUnion.toJson swappedPetUnion.toJson ∧ swappedPetUnion ≠ petUnion ∧
    NamedType.ofJson? petUnion.toJson = some petUnion ∧ petUnion.same swappedPetUnion = true ∧
    ∃ u, NamedType.ofJson? swappedPetUnion.toJson = some u ∧ petUnion.same u = true := by
  have hmembers : Reordered
      (.object [("Cat", (petRef "Cat" 2).toJson), ("Dog", (petRef "Dog" 3).toJson)])
      (.object [("Dog", (petRef "Dog" 3).toJson), ("Cat", (petRef "Cat" 2).toJson)]) :=
    .of_perm (by decide) (.swap ..)
  have hbody : Reordered (.object petUnion.toMembers) (.object swappedPetUnion.toMembers) := by
    refine .object petUnion.nodup_toMembers (.refl _) fun key j k hj hk ↦ ?_
    simp only [toMembers, Shape.toMembers, petUnion, swappedPetUnion, List.cons_append,
      List.nil_append, List.mem_cons, Prod.mk.injEq, List.not_mem_nil, or_false] at hj hk
    rcases hj with ⟨rfl, rfl⟩ | ⟨rfl, rfl⟩ | ⟨rfl, rfl⟩ | ⟨rfl, rfl⟩ <;> simp at hk <;> subst hk
    · exact .refl _
    · exact .refl _
    · exact .refl _
    · exact hmembers
  have hform : Reordered petUnion.toJson swappedPetUnion.toJson := by
    refine .object (List.nodup_singleton _) (.refl _) fun key j k hj hk ↦ ?_
    obtain ⟨-, rfl⟩ := Prod.mk.inj (List.mem_singleton.1 hj)
    obtain ⟨-, rfl⟩ := Prod.mk.inj (List.mem_singleton.1 hk)
    exact hbody
  obtain ⟨hread, -, hreordered, -, hsame⟩ := petUnion.roundTrip
  exact ⟨hform, by decide, hread, hsame swappedPetUnion hform, hreordered _ hform⟩

end GraphQLCheck
