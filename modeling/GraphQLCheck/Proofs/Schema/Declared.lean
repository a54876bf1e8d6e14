import GraphQLCheck.Proofs.Schema.SourceOrder

/-!
# What a declaration declares

A type declaration declares a type exactly when no field of it is repeated
(`NamedType.exists_ofDecl_iff`). The fields of an object or of an interface are added one by one,
each refused if its name is there already, so what comes out are all of them, in order and each
under its own name (`NamedType.entries_of_ofDecl`). The name, the kind and the location of the type
are those of the declaration.
-/

namespace GraphQLCheck

/-- The fields that the declaration of an object or of an interface lists. -/
def TypeBody.fields : TypeBody → List FieldDecl
  | .interface _ fields | .object _ fields => fields
  | .enum _ | .input _ | .scalar | .union _ => []

/-! ### Fields -/

section Fields

variable {file : Option String} {parent : String} {fields fields' : Dict Field}

/-- A field is added exactly when its name is new, and then it comes last. -/
theorem addField_eq_ok_iff {d : FieldDecl} :
    addField file parent fields d = .ok fields' ↔
      fields.get? d.name = none ∧ fields' = fields.insert d.name (.ofDecl file parent d) := by
  rw [addField]
  cases hknown : fields.get? d.name with
  | some known =>
    refine iff_of_false (fun h ↦ ?_) (fun h ↦ ?_)
    · cases h
    · cases h.1
  | none => exact ⟨fun h ↦ ⟨rfl, (Except.ok.inj h).symm⟩, fun h ↦ congrArg Except.ok h.2.symm⟩

/-- Fields are added to others exactly when all names are different, and then they come after them
in order. -/
theorem foldlM_addField_eq_ok_iff {ds : List FieldDecl} :
    ds.foldlM (addField file parent) fields = .ok fields' ↔
      (fields.keys ++ ds.map FieldDecl.name).Nodup ∧
        fields'.entries = fields.entries ++ ds.map fun d ↦ (d.name, .ofDecl file parent d) := by
  induction ds generalizing fields with
  | nil =>
    rw [List.map_nil, List.append_nil, List.map_nil, List.append_nil, Dict.entries_inj]
    exact ⟨fun h ↦ ⟨fields.keys_nodup, (Except.ok.inj h).symm⟩, fun h ↦ congrArg Except.ok h.2.symm⟩
  | cons d ds ih =>
    rw [List.foldlM_cons, bind_eq_ok_iff]
    constructor
    · rintro ⟨fields₁, hstep, hrest⟩
      obtain ⟨hnew, rfl⟩ := addField_eq_ok_iff.1 hstep
      obtain ⟨hnodup, hentries⟩ := ih.1 hrest
      rw [Dict.keys_insert, if_neg (Dict.get?_eq_none_iff.1 hnew), List.append_assoc] at hnodup
      rw [Dict.entries_insert hnew, List.append_assoc] at hentries
      exact ⟨hnodup, hentries⟩
    · rintro ⟨hnodup, hentries⟩
      -- the name of the first is none of those that were there before
      have hnew : d.name ∉ fields.keys := fun hmem ↦
        (List.nodup_append.1 hnodup).2.2 _ hmem _ List.mem_cons_self rfl
      have hget : fields.get? d.name = none := Dict.get?_eq_none_iff.2 hnew
      refine ⟨_, addField_eq_ok_iff.2 ⟨hget, rfl⟩, ih.2 ⟨?_, ?_⟩⟩
      · rwa [Dict.keys_insert, if_neg hnew, List.append_assoc]
      · rwa [Dict.entries_insert hget, List.append_assoc]

/-- Fields that are declared become fields of a type in their order, if no name is there twice. -/
theorem fieldsOfDecls_eq_ok_iff {ds : List FieldDecl} :
    fieldsOfDecls file parent ds = .ok fields ↔
      (ds.map FieldDecl.name).Nodup ∧
        fields.entries = ds.map fun d ↦ (d.name, .ofDecl file parent d) :=
  foldlM_addField_eq_ok_iff

/-- Only a repeated name keeps declared fields from becoming those of a type. -/
theorem exists_fieldsOfDecls_iff (file : Option String) (parent : String) {ds : List FieldDecl} :
    (∃ fields, fieldsOfDecls file parent ds = .ok fields) ↔ (ds.map FieldDecl.name).Nodup := by
  constructor
  · rintro ⟨fields, h⟩
    exact (fieldsOfDecls_eq_ok_iff.1 h).1
  · intro h
    exact ⟨_, fieldsOfDecls_eq_ok_iff.2 ⟨h, Dict.entries_ofList_map_eq_iff.2 h⟩⟩

end Fields

/-! ### Types -/

namespace NamedType

variable {file : Option String} {decl : TypeDecl} {t : NamedType}

/-- What is declared of a type decides whether there is one; the rest is taken as it stands. -/
theorem ofDecl_eq_ok_iff : ofDecl file decl = .ok t ↔
    ∃ shape, Shape.ofDecl file decl = .ok shape ∧
      t = ⟨decl.name, decl.description?, .written file decl.position, shape⟩ := by
  rw [ofDecl, bind_eq_ok_iff]
  exact exists_congr fun shape ↦ and_congr_right fun _ ↦
    ⟨fun h ↦ (Except.ok.inj h).symm, fun h ↦ congrArg Except.ok h.symm⟩

/-- A type has the name that is declared. -/
theorem name_of_ofDecl (h : ofDecl file decl = .ok t) : t.name = decl.name := by
  obtain ⟨shape, -, rfl⟩ := ofDecl_eq_ok_iff.1 h
  rfl

/-- A type stands where it is declared. -/
theorem location_of_ofDecl (h : ofDecl file decl = .ok t) :
    t.location = .written file decl.position := by
  obtain ⟨shape, -, rfl⟩ := ofDecl_eq_ok_iff.1 h
  rfl

/-- A type is declared exactly when no field is repeated. -/
theorem exists_ofDecl_iff (file : Option String) (decl : TypeDecl) :
    (∃ t, ofDecl file decl = .ok t) ↔ (decl.body.fields.map FieldDecl.name).Nodup := by
  have hshape : (∃ t, ofDecl file decl = .ok t) ↔ ∃ shape, Shape.ofDecl file decl = .ok shape := by
    simp only [ofDecl_eq_ok_iff]
    constructor
    · rintro ⟨t, shape, h, -⟩
      exact ⟨shape, h⟩
    · rintro ⟨shape, h⟩
      exact ⟨_, shape, h, rfl⟩
  rw [hshape, Shape.ofDecl]
  cases hbody : decl.body
  case interface interfaces fields | object interfaces fields =>
    rw [TypeBody.fields, ← exists_fieldsOfDecls_iff file decl.name]
    simp only [bind_eq_ok_iff]
    constructor
    · rintro ⟨shape, kept, h, -⟩
      exact ⟨kept, h⟩
    · rintro ⟨kept, h⟩
      exact ⟨_, kept, h, rfl⟩
  all_goals exact ⟨fun _ ↦ List.nodup_nil, fun _ ↦ ⟨_, rfl⟩⟩

/-- The fields of an object or of an interface are all that are declared, in order. -/
theorem entries_of_ofDecl (h : ofDecl file decl = .ok t) {fields : Dict Field}
    (hfields : t.fields? = some fields) :
    fields.entries = decl.body.fields.map fun f ↦ (f.name, .ofDecl file decl.name f) := by
  obtain ⟨shape, hshape, rfl⟩ := ofDecl_eq_ok_iff.1 h
  rw [Shape.ofDecl] at hshape
  cases hbody : decl.body <;> rw [hbody] at hshape
  case interface interfaces fields | object interfaces fields =>
    obtain ⟨kept, hkept, hshape⟩ := bind_eq_ok_iff.1 hshape
    obtain rfl := Except.ok.inj hshape
    obtain rfl := Option.some.inj hfields
    exact (fieldsOfDecls_eq_ok_iff.1 hkept).2
  all_goals
    obtain rfl := Except.ok.inj hshape
    cases hfields

end NamedType

end GraphQLCheck
