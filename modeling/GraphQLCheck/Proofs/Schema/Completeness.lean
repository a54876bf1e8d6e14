import GraphQLCheck.Proofs.Schema.Listing

/-!
# What loading drops

The fields of an object or of an interface are all kept, and a repeated one is refused. Parameters,
input fields and enum values are put into a dictionary without a check, so of several with one name
the last takes the place of the first and the others are lost (`lastOfName`). A document and the one
that says only this much (`Declaration.condense`) cannot be told apart by loading them, whether they
can be loaded or not (`Draft.load_condense`).

So a type holds all that its declaration lists exactly when no list of it repeats a name
(`NamedType.complete_iff`), and nothing but the type itself shows that something is missing.
-/

namespace GraphQLCheck

/-! ### The last of each name -/

section LastOfName

variable {δ α : Type} {name : δ → String}

/-- Of the declarations with one name the last, in the place of the first. -/
def lastOfName (name : δ → String) (ds : List δ) : List δ :=
  (ds.map name).eraseDups.filterMap fun n ↦ (ds.filter (name · == n)).getLast?

/-- The last of each name is what a dictionary keeps. -/
theorem lastOfName_eq_values (name : δ → String) (ds : List δ) :
    lastOfName name ds = (Dict.ofList (ds.map fun d ↦ (name d, d))).values := by
  have hkeys : (ds.map fun d ↦ (name d, d)).map Prod.fst = ds.map name := by
    rw [List.map_map]
    rfl
  rw [Dict.values_eq_filterMap, Dict.keys_ofList, hkeys, lastOfName]
  refine List.filterMap_congr fun n _ ↦ ?_
  rw [Dict.get?_ofList, List.filter_map, List.getLast?_map, Option.map_map]
  exact Option.map_id'.symm

theorem byName_ofList_self (name : δ → String) (ds : List δ) :
    (Dict.ofList (ds.map fun d ↦ (name d, d))).ByName name :=
  .ofList fun e he ↦ by
    obtain ⟨d, -, rfl⟩ := List.mem_map.1 he
    rfl

/-- No name is left twice. -/
theorem nodup_map_lastOfName (name : δ → String) (ds : List δ) :
    ((lastOfName name ds).map name).Nodup := by
  rw [lastOfName_eq_values, (byName_ofList_self name ds).map_values]
  exact Dict.keys_nodup _

/-- What is dropped makes no difference to the dictionary. -/
theorem ofList_lastOfName (name : δ → String) (f : δ → α) (ds : List δ) :
    Dict.ofList ((lastOfName name ds).map fun d ↦ (name d, f d)) =
      Dict.ofList (ds.map fun d ↦ (name d, f d)) := by
  -- both sides are the image of the dictionary of the declarations themselves
  have hmap : (Dict.ofList (ds.map fun d ↦ (name d, d))).map f =
      Dict.ofList (ds.map fun d ↦ (name d, f d)) := by
    rw [Dict.map_ofList, List.map_map]
    rfl
  have hentries : (lastOfName name ds).map (fun d ↦ (name d, f d)) =
      ((Dict.ofList (ds.map fun d ↦ (name d, d))).map f).entries := by
    rw [lastOfName_eq_values, Dict.values, List.map_map]
    refine List.map_congr_left fun e he ↦ ?_
    rw [Function.comp_apply, byName_ofList_self name ds e he]
  rw [hentries, Dict.ofList_entries, hmap]

end LastOfName

/-! ### Condensed documents -/

/-- The field without the parameters that are dropped. -/
def FieldDecl.condense (d : FieldDecl) : FieldDecl :=
  { d with parameters := lastOfName ParameterDecl.name d.parameters }

/-- What is declared of a type, without what is dropped. -/
def TypeBody.condense : TypeBody → TypeBody
  | .enum values => .enum (lastOfName EnumValueDecl.name values)
  | .input fields => .input (lastOfName ParameterDecl.name fields)
  | .interface interfaces fields => .interface interfaces (fields.map FieldDecl.condense)
  | .object interfaces fields => .object interfaces (fields.map FieldDecl.condense)
  | .scalar => .scalar
  | .union members => .union members

/-- The declaration of a type without what is dropped. -/
def TypeDecl.condense (d : TypeDecl) : TypeDecl := { d with body := d.body.condense }

/-- The declaration without what is dropped. -/
def Declaration.condense : Declaration → Declaration
  | .type decl => .type decl.condense
  | declaration => declaration

theorem Field.ofDecl_condense (file : Option String) (parent : String) (d : FieldDecl) :
    Field.ofDecl file parent d.condense = Field.ofDecl file parent d := by
  simp only [ofDecl, FieldDecl.condense, Parameter.ofDecls, ofList_lastOfName]

theorem addField_condense (file : Option String) (parent : String) (fields : Dict Field)
    (d : FieldDecl) : addField file parent fields d.condense = addField file parent fields d := by
  rw [addField, addField, Field.ofDecl_condense]
  rfl

theorem fieldsOfDecls_condense (file : Option String) (parent : String) (ds : List FieldDecl) :
    fieldsOfDecls file parent (ds.map FieldDecl.condense) = fieldsOfDecls file parent ds := by
  rw [fieldsOfDecls, List.foldlM_map, fieldsOfDecls]
  congr 1
  funext fields d
  exact addField_condense file parent fields d

theorem Shape.ofDecl_condense (file : Option String) (decl : TypeDecl) :
    Shape.ofDecl file decl.condense = Shape.ofDecl file decl := by
  obtain ⟨position, description?, name, body⟩ := decl
  cases body with
  | enum values => simp only [ofDecl, TypeDecl.condense, TypeBody.condense, ofList_lastOfName]
  | input fields =>
    simp only [ofDecl, TypeDecl.condense, TypeBody.condense, Parameter.ofDecls, ofList_lastOfName]
  | interface interfaces fields | object interfaces fields =>
    simp only [ofDecl, TypeDecl.condense, TypeBody.condense, fieldsOfDecls_condense]
  | scalar => rfl
  | union members => rfl

theorem NamedType.ofDecl_condense (file : Option String) (decl : TypeDecl) :
    NamedType.ofDecl file decl.condense = NamedType.ofDecl file decl := by
  rw [ofDecl, ofDecl, Shape.ofDecl_condense]
  rfl

/-- One step: what is dropped makes no difference to the draft, nor to the error. -/
theorem Draft.add_condense (file : Option String) (d : Draft) (declaration : Declaration) :
    d.add file declaration.condense = d.add file declaration := by
  cases declaration with
  | type decl =>
    show d.addTypeDecl file decl.condense = d.addTypeDecl file decl
    rw [addTypeDecl, addTypeDecl, NamedType.ofDecl_condense]
    rfl
  | schema decl => rfl
  | extension name => rfl
  | directive name => rfl

/-- A whole run: a document loads as its condensed form does. -/
theorem Draft.load_condense (file : Option String) (d : Draft) (declarations : List Declaration) :
    d.load file (declarations.map Declaration.condense) = d.load file declarations := by
  rw [load, List.foldlM_map, load]
  congr 1
  funext d declaration
  exact add_condense file d declaration

/-! ### Lists that repeat no name -/

/-- No list of parameters, input fields or enum values repeats a name. -/
def TypeBody.Unrepeated : TypeBody → Prop
  | .enum values => (values.map EnumValueDecl.name).Nodup
  | .input fields => (fields.map ParameterDecl.name).Nodup
  | .interface _ fields | .object _ fields =>
    ∀ f ∈ fields, (f.parameters.map ParameterDecl.name).Nodup
  | .scalar | .union _ => True

instance (body : TypeBody) : Decidable body.Unrepeated :=
  match body with
  | .enum values => inferInstanceAs (Decidable (values.map EnumValueDecl.name).Nodup)
  | .input fields => inferInstanceAs (Decidable (fields.map ParameterDecl.name).Nodup)
  | .interface _ fields | .object _ fields =>
    inferInstanceAs (Decidable (∀ f ∈ fields, (f.parameters.map ParameterDecl.name).Nodup))
  | .scalar | .union _ => inferInstanceAs (Decidable True)

theorem TypeBody.unrepeated_condense (body : TypeBody) : body.condense.Unrepeated := by
  cases body with
  | enum values => exact nodup_map_lastOfName _ values
  | input fields => exact nodup_map_lastOfName _ fields
  | interface interfaces fields | object interfaces fields =>
    intro f hf
    obtain ⟨g, -, rfl⟩ := List.mem_map.1 hf
    exact nodup_map_lastOfName _ g.parameters
  | scalar => trivial
  | union members => trivial

/-! ### Types that hold all that is declared -/

/-- A parameter or an input field is as its declaration says. -/
structure ParameterDecl.Describes (file : Option String) (d : ParameterDecl) (p : Parameter) :
    Prop where
  /-- It has the name that is declared. -/
  name : p.name = d.name
  /-- It has the type that is declared. -/
  annotation : p.annotation = .ofTypeExpr (.written file d.position) d.type
  /-- It has the default that is declared. -/
  default : p.default? = d.default?.map Value.text
  /-- It has the description that is declared. -/
  description : p.description? = d.description?
  /-- It is located at the declaration. -/
  location : p.location = .written file d.position

/-- An enum value is as its declaration says. -/
structure EnumValueDecl.Describes (file : Option String) (d : EnumValueDecl) (v : EnumValue) :
    Prop where
  /-- It has the name that is declared. -/
  name : v.name = d.name
  /-- It has the description that is declared. -/
  description : v.description? = d.description?
  /-- It is located at the declaration. -/
  location : v.location = .written file d.position

/-- A field is as its declaration says, its parameters apart. -/
structure FieldDecl.Describes (file : Option String) (d : FieldDecl) (f : Field) : Prop where
  /-- It has the name that is declared. -/
  name : f.name = d.name
  /-- It has the type that is declared. -/
  annotation : f.annotation = .ofTypeExpr (.written file d.position) d.type
  /-- It has the description that is declared. -/
  description : f.description? = d.description?
  /-- It is located at the declaration. -/
  location : f.location = .written file d.position

theorem ParameterDecl.describes_iff {file : Option String} (d : ParameterDecl) (p : Parameter) :
    d.Describes file p ↔ p = .ofDecl file d := by
  constructor
  · rintro ⟨hname, hannotation, hdefault, hdescription, hlocation⟩
    obtain ⟨name, annotation, default?, description?, location⟩ := p
    rw [Parameter.ofDecl, Parameter.mk.injEq]
    exact ⟨hname, hannotation, hdefault, hdescription, hlocation⟩
  · rintro rfl
    exact ⟨rfl, rfl, rfl, rfl, rfl⟩

theorem EnumValueDecl.describes_iff {file : Option String} (d : EnumValueDecl) (v : EnumValue) :
    d.Describes file v ↔ v = .ofDecl file d := by
  constructor
  · rintro ⟨hname, hdescription, hlocation⟩
    obtain ⟨name, description?, location⟩ := v
    rw [EnumValue.ofDecl, EnumValue.mk.injEq]
    exact ⟨hname, hdescription, hlocation⟩
  · rintro rfl
    exact ⟨rfl, rfl, rfl⟩

theorem FieldDecl.describes_ofDecl (file : Option String) (parent : String) (d : FieldDecl) :
    d.Describes file (.ofDecl file parent d) :=
  ⟨rfl, rfl, rfl, rfl⟩

/-- A dictionary holds one thing for each declaration of a list, in order, under its name and as it
is described. -/
def Dict.Holds {δ α : Type} (name : δ → String) (describes : δ → α → Prop) (ds : List δ)
    (dict : Dict α) : Prop :=
  List.Forall₂ (fun d e ↦ e.1 = name d ∧ describes d e.2) ds dict.entries

theorem Dict.holds_iff {δ α : Type} {name : δ → String} {describes : δ → α → Prop} {f : δ → α}
    (hdescribes : ∀ d a, describes d a ↔ a = f d) {ds : List δ} {dict : Dict α} :
    dict.Holds name describes ds ↔ dict.entries = ds.map fun d ↦ (name d, f d) := by
  have hentry : (fun d (e : String × α) ↦ e.1 = name d ∧ describes d e.2) =
      fun d e ↦ (name d, f d) = e := by
    funext d e
    rw [hdescribes, eq_comm, Prod.ext_iff]
    simp only [eq_comm]
  rw [Holds, hentry, eq_comm, ← List.forall₂_eq_eq_eq, List.forall₂_map_left_iff]

/-- Things that are put under their names are held exactly when the names are different. -/
theorem Dict.holds_ofList_iff {δ α : Type} {name : δ → String} {describes : δ → α → Prop}
    {f : δ → α} (hdescribes : ∀ d a, describes d a ↔ a = f d) {ds : List δ} :
    (Dict.ofList (ds.map fun d ↦ (name d, f d))).Holds name describes ds ↔ (ds.map name).Nodup := by
  rw [holds_iff hdescribes, entries_ofList_map_eq_iff]

theorem Parameter.holds_ofDecls_iff (file : Option String) {ds : List ParameterDecl} :
    (Parameter.ofDecls file ds).Holds ParameterDecl.name (ParameterDecl.Describes file) ds ↔
      (ds.map ParameterDecl.name).Nodup :=
  Dict.holds_ofList_iff ParameterDecl.describes_iff

namespace NamedType

variable {file : Option String} {decl : TypeDecl} {t : NamedType}

/-- A type holds all fields, parameters, input fields and enum values that a declaration lists. -/
def Complete (file : Option String) (decl : TypeDecl) (t : NamedType) : Prop :=
  match decl.body, t.shape with
  | .enum values, .enum kept => kept.Holds EnumValueDecl.name (EnumValueDecl.Describes file) values
  | .input fields, .input kept =>
    kept.Holds ParameterDecl.name (ParameterDecl.Describes file) fields
  | .interface _ fields, .interface kept _ | .object _ fields, .object kept _ =>
    kept.Holds FieldDecl.name (fun d f ↦ d.Describes file f ∧
      f.parameters.Holds ParameterDecl.name (ParameterDecl.Describes file) d.parameters) fields
  | .scalar, .scalar | .union _, .union _ => True
  | _, _ => False

/-- The fields of a declared type are those that its declaration describes, whatever becomes of
their parameters. -/
theorem holds_fields_of_ofDecl (h : ofDecl file decl = .ok t) {kept : Dict Field}
    (hkept : t.fields? = some kept) :
    kept.Holds FieldDecl.name (FieldDecl.Describes file) decl.body.fields := by
  rw [Dict.Holds, entries_of_ofDecl h hkept, List.forall₂_map_right_iff, List.forall₂_same]
  exact fun d _ ↦ ⟨rfl, d.describes_ofDecl file decl.name⟩

/-- The fields of a declared type have all their parameters exactly when no field repeats one. -/
theorem holds_parameters_iff {parent : String} {ds : List FieldDecl} {kept : Dict Field}
    (h : fieldsOfDecls file parent ds = .ok kept) :
    kept.Holds FieldDecl.name (fun d f ↦ d.Describes file f ∧
        f.parameters.Holds ParameterDecl.name (ParameterDecl.Describes file) d.parameters) ds ↔
      ∀ d ∈ ds, (d.parameters.map ParameterDecl.name).Nodup := by
  rw [Dict.Holds, (fieldsOfDecls_eq_ok_iff.1 h).2, List.forall₂_map_right_iff, List.forall₂_same]
  refine forall₂_congr fun d _ ↦ ?_
  rw [← Parameter.holds_ofDecls_iff file]
  exact ⟨fun h ↦ h.2.2, fun h ↦ ⟨rfl, d.describes_ofDecl file parent, h⟩⟩

/-- A declared type holds all that its declaration lists exactly when no list repeats a name. -/
theorem complete_iff (h : ofDecl file decl = .ok t) :
    t.Complete file decl ↔ decl.body.Unrepeated := by
  obtain ⟨shape, hshape, rfl⟩ := ofDecl_eq_ok_iff.1 h
  rw [Shape.ofDecl] at hshape
  rw [Complete]
  -- one case for each kind: the shape is then of the same kind as the declaration
  cases hbody : decl.body <;> rw [hbody] at hshape
  case enum values =>
    obtain rfl := Except.ok.inj hshape
    exact Dict.holds_ofList_iff EnumValueDecl.describes_iff
  case input fields =>
    obtain rfl := Except.ok.inj hshape
    exact Parameter.holds_ofDecls_iff file
  case interface interfaces fields | object interfaces fields =>
    obtain ⟨kept, hkept, hshape⟩ := bind_eq_ok_iff.1 hshape
    obtain rfl := Except.ok.inj hshape
    exact holds_parameters_iff hkept
  all_goals
    obtain rfl := Except.ok.inj hshape
    exact Iff.rfl

/-- A declared type holds all that is left of its declaration. -/
theorem complete_condense (h : ofDecl file decl = .ok t) : t.Complete file decl.condense := by
  -- the condensed declaration declares the same type, and its lists repeat nothing
  rw [← ofDecl_condense] at h
  exact (complete_iff h).2 decl.body.unrepeated_condense

end NamedType

/-! ### What a document adds -/

/-- The declaration of a type, if it is one. -/
def Declaration.typeDecl? : Declaration → Option TypeDecl
  | .type decl => some decl
  | _ => none

/-- Sound declarations declare a type each. -/
theorem forall₂_declaredTypes {file : Option String} {declarations : List Declaration}
    (h : ∀ p ∈ declarations.map (Placed.mk file), p.Sound) :
    List.Forall₂ (fun decl t ↦ NamedType.ofDecl file decl = .ok t)
      (declarations.filterMap Declaration.typeDecl?)
      (declaredTypes (declarations.map (Placed.mk file))) := by
  induction declarations with
  | nil => exact .nil
  | cons declaration declarations ih =>
    rw [List.map_cons, List.forall_mem_cons] at h
    obtain ⟨hsound, hrest⟩ := h
    cases declaration with
    | type decl =>
      obtain ⟨t, ht, -⟩ := hsound
      have hcons : declaredTypes ((Declaration.type decl :: declarations).map (Placed.mk file)) =
          t :: declaredTypes (declarations.map (Placed.mk file)) := by
        rw [List.map_cons, ← List.singleton_append, declaredTypes_append, declaredTypes_type ht]
        rfl
      rw [hcons]
      exact .cons ht (ih hrest)
    | schema decl => exact ih hrest
    | extension name => exact ih hrest
    | directive name => exact ih hrest

/-- **What loading drops.** A document loads as its condensed form does, with the same draft or the
same error. The types that it adds are those that it declares, in order; each has all the fields
that are declared and holds all that the condensed declaration lists. It holds all that the
declaration itself lists exactly when the lists of the declaration repeat no name. -/
theorem complete_iff_of_load (file : Option String) (d : Draft) (declarations : List Declaration) :
    d.load file (declarations.map Declaration.condense) = d.load file declarations ∧
    ∀ d', d.load file declarations = .ok d' → ∃ added,
      d'.types.values = d.types.values ++ added ∧
      List.Forall₂ (fun decl t ↦ decl.Describes file t ∧
          (∀ kept, t.fields? = some kept →
            kept.Holds FieldDecl.name (FieldDecl.Describes file) decl.body.fields) ∧
          t.Complete file decl.condense ∧
          (t.Complete file decl ↔ decl.body.Unrepeated))
        (declarations.filterMap Declaration.typeDecl?) added := by
  refine ⟨d.load_condense file declarations, fun d' hd' ↦ ?_⟩
  have hfold : (declarations.map (Placed.mk file)).foldlM Draft.addPlaced d = .ok d' :=
    List.foldlM_map.trans hd'
  have hextends := Draft.extends_of_foldlM hfold
  refine ⟨_, hextends.values, (forall₂_declaredTypes hextends.sound).imp fun decl t ht ↦ ?_⟩
  exact ⟨TypeDecl.describes_of_ofDecl ht, fun _ ↦ NamedType.holds_fields_of_ofDecl ht,
    NamedType.complete_condense ht, NamedType.complete_iff ht⟩

/-- A root type whose field repeats a parameter. -/
def findDecl : TypeDecl :=
  ⟨⟨1, 1⟩, none, "Query", .object [] [⟨⟨2, 3⟩, none, "find",
    [⟨⟨2, 8⟩, none, "by", .named "Filter", none⟩, ⟨⟨2, 20⟩, none, "by", .named "Order", none⟩],
    .named "String"⟩]⟩

/-- An input object that repeats a field. -/
def filterDecl : TypeDecl :=
  ⟨⟨4, 1⟩, none, "Filter", .input [⟨⟨5, 3⟩, none, "name", .named "String", none⟩,
    ⟨⟨6, 3⟩, none, "age", .named "Int", none⟩, ⟨⟨7, 3⟩, none, "name", .named "ID", none⟩]⟩

/-- An enum that repeats a value. -/
def orderDecl : TypeDecl :=
  ⟨⟨9, 1⟩, none, "Order",
    .enum [⟨⟨10, 3⟩, some "Rising", "UP"⟩, ⟨⟨11, 3⟩, some "Falling", "UP"⟩]⟩

/-- An enum that repeats nothing. -/
def unitDecl : TypeDecl :=
  ⟨⟨13, 1⟩, none, "Unit", .enum [⟨⟨14, 3⟩, none, "KM"⟩, ⟨⟨15, 3⟩, none, "MILE"⟩]⟩

/-- A schema in which only one type holds all that is declared. -/
def searchDeclarations : List Declaration :=
  [.type findDecl, .type filterDecl, .type orderDecl, .type unitDecl]

theorem complete_searchDeclarations : ∃ d : Draft, ∃ query filter order unit : NamedType,
    Draft.empty.load none searchDeclarations = .ok d ∧
    d.types.values = Draft.empty.types.values ++ [query, filter, order, unit] ∧
    ¬ query.Complete none findDecl ∧ ¬ filter.Complete none filterDecl ∧
    ¬ order.Complete none orderDecl ∧ unit.Complete none unitDecl := by
  obtain ⟨d, hd⟩ : ∃ d, Draft.empty.load none searchDeclarations = .ok d := ⟨_, rfl⟩
  obtain ⟨added, hvalues, hadded⟩ := (complete_iff_of_load none .empty searchDeclarations).2 d hd
  change List.Forall₂ _ [findDecl, filterDecl, orderDecl, unitDecl] added at hadded
  obtain - | ⟨⟨-, -, -, hquery⟩, - | ⟨⟨-, -, -, hfilter⟩, - | ⟨⟨-, -, -, horder⟩,
    - | ⟨⟨-, -, -, hunit⟩, ⟨⟩⟩⟩⟩⟩ := hadded
  exact ⟨d, _, _, _, _, hd, hvalues, mt hquery.1 (by decide), mt hfilter.1 (by decide),
    mt horder.1 (by decide), hunit.2 (by decide)⟩

/-- A schema with repeated names can be built. One of two parameters, one of three input fields and
one of two enum values are lost in it. -/
theorem build_searchDeclarations : ∃ d s, Draft.empty.load none searchDeclarations = .ok d ∧
    d.build = .ok s ∧
    ((s.type? "Query").bind (·.field? "find")).map (·.parameters.size) = some 1 ∧
    (s.type? "Filter").map NamedType.shape = some (.input (.ofList
      [("name", ⟨"name", .named true ⟨"ID", .written none ⟨7, 3⟩⟩, none, none,
        .written none ⟨7, 3⟩⟩),
      ("age", ⟨"age", .named true ⟨"Int", .written none ⟨6, 3⟩⟩, none, none,
        .written none ⟨6, 3⟩⟩)])) ∧
    (s.type? "Order").map NamedType.shape =
      some (.enum (.ofList [("UP", ⟨"UP", some "Falling", .written none ⟨11, 3⟩⟩)])) :=
  ⟨_, _, rfl, rfl, by decide +kernel⟩

end GraphQLCheck
