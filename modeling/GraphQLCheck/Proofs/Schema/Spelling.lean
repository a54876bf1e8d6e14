import GraphQLCheck.Proofs.Schema.Declared
import GraphQLCheck.Proofs.TypeExpr.Reading
import GraphQLCheck.Proofs.Value.Variables

/-!
# How the names of a schema are spelled

The types of a schema are **spelled** when their names, the names of their fields and the names in
the types of fields and parameters are made of the characters of GraphQL names (`TypesSpelled`).
Declarations in which this is so lead to such types (`Draft.typesSpelled_of_loadDocuments`), and
whatever the grammar reads from a text are such declarations (`Declaration.spelled_of_parse`). So a
schema that comes from texts or files is spelled (`Schema.typesSpelled_of_ofTexts`,
`Schema.typesSpelled_of_ofFiles`).
-/

namespace GraphQLCheck

/-! ### Declarations -/

/-- The names of a parameter are spelled. -/
structure ParameterDecl.Spelled (d : ParameterDecl) : Prop where
  /-- Its own name. -/
  name : NameLike d.name
  /-- The name in its type. -/
  type : d.type.Proper

/-- The names of a field are spelled. -/
structure FieldDecl.Spelled (d : FieldDecl) : Prop where
  /-- Its own name. -/
  name : NameLike d.name
  /-- The name in its type. -/
  type : d.type.Proper
  /-- Those of its parameters. -/
  parameters : ∀ p ∈ d.parameters, p.Spelled

/-- The names of a type and of its fields are spelled. -/
structure TypeDecl.Spelled (d : TypeDecl) : Prop where
  /-- Its own name. -/
  name : NameLike d.name
  /-- Those of its fields. -/
  fields : ∀ f ∈ d.body.fields, f.Spelled

/-- If a type is declared, its names are spelled. -/
def Declaration.Spelled : Declaration → Prop
  | .type decl => decl.Spelled
  | .schema _ | .extension _ | .directive _ => True

instance (d : ParameterDecl) : Decidable d.Spelled :=
  decidable_of_iff (NameLike d.name ∧ d.type.Proper)
    ⟨fun h ↦ ⟨h.1, h.2⟩, fun h ↦ ⟨h.name, h.type⟩⟩

instance (d : FieldDecl) : Decidable d.Spelled :=
  decidable_of_iff (NameLike d.name ∧ d.type.Proper ∧ ∀ p ∈ d.parameters, p.Spelled)
    ⟨fun h ↦ ⟨h.1, h.2.1, h.2.2⟩, fun h ↦ ⟨h.name, h.type, h.parameters⟩⟩

instance (d : TypeDecl) : Decidable d.Spelled :=
  decidable_of_iff (NameLike d.name ∧ ∀ f ∈ d.body.fields, f.Spelled)
    ⟨fun h ↦ ⟨h.1, h.2⟩, fun h ↦ ⟨h.name, h.fields⟩⟩

instance : (declaration : Declaration) → Decidable declaration.Spelled
  | .type decl => inferInstanceAs (Decidable decl.Spelled)
  | .schema _ | .extension _ | .directive _ => inferInstanceAs (Decidable True)

/-! ### What is read from a text -/

namespace Declaration

/-- A name in a declaration is spelled. -/
theorem yields_name : Parser.name.Yields NameLike :=
  Parser.Yields.name.mono fun _ ↦ nameLike_of_isName

/-- A type in a declaration has a name that is spelled. -/
theorem yields_typeExpr (depth : Nat) : (TypeExpr.parser depth).Yields TypeExpr.Proper :=
  (TypeExpr.parser_yields depth).mono fun _ ↦ TypeExpr.Written.proper

/-- Directives, of which a schema keeps nothing. -/
theorem yields_directives (depth : Nat) : (directives depth).Yields fun _ ↦ True := by
  have hargument (depth : Nat) : (Document.argument false depth).Yields fun _ ↦ True :=
    .bind .name fun _ _ ↦ .bind .punct fun _ _ ↦ .bind (Value.parser_yields false depth) fun _ _ ↦
      .pure trivial
  have harguments (depth : Nat) : (Document.arguments false depth).Yields fun _ ↦ True :=
    .bind (.enclosed? (fun depth ↦ .someBefore (hargument depth)) depth) fun _ _ ↦ .pure trivial
  have hdirective : (Document.directive false depth).Yields fun _ ↦ True :=
    .bind .name fun _ _ ↦ .bind (harguments depth) fun _ _ ↦ .pure trivial
  exact .bind (.manyAfter hdirective) fun _ _ ↦ .pure trivial

/-- A parameter that is read is spelled, with a default value or without one. -/
theorem yields_parameter (depth : Nat) : (parameter depth).Yields ParameterDecl.Spelled := by
  refine .bind .position fun _ _ ↦ .bind .string? fun _ _ ↦ .bind yields_name fun name hname ↦ ?_
  refine .bind .punct fun _ _ ↦ .bind (yields_typeExpr depth) fun type htype ↦ ?_
  have hdone (position : Position) (description? : Option String) (default? : Option Value) :
      Parser.Yields (do
        let _ ← directives depth
        return (⟨position, description?, name, type, default?⟩ : ParameterDecl))
        ParameterDecl.Spelled :=
    .bind (yields_directives depth) fun _ _ ↦ .pure ⟨hname, htype⟩
  have hvalue : (some <$> Value.parser true depth).Yields fun _ ↦ True :=
    .map (Value.parser_yields true depth) fun _ _ ↦ trivial
  exact .bind_ite .accept (.bind hvalue fun default? _ ↦ hdone _ _ default?)
    (.bind (P := fun _ ↦ True) (.pure trivial) fun default? _ ↦ hdone _ _ default?)

/-- Items that may be missing have a property if those that are found have it. -/
theorem forall_mem_getD {α : Type} {P : α → Prop} {found : Option (List α)}
    (h : ∀ l ∈ found, ∀ a ∈ l, P a) : ∀ a ∈ found.getD [], P a := by
  cases found with
  | none => exact fun a ha ↦ absurd ha List.not_mem_nil
  | some l => exact h l rfl

/-- Parameters that are read are spelled. -/
theorem yields_parameters (depth : Nat) :
    (parameters depth).Yields fun ps ↦ ∀ p ∈ ps, p.Spelled :=
  .bind (.enclosed? (fun depth ↦ .someBefore (yields_parameter depth)) depth) fun _ hfound ↦
    .pure (forall_mem_getD hfound)

/-- A field that is read is spelled, with its parameters. -/
theorem yields_field (depth : Nat) : (field depth).Yields FieldDecl.Spelled := by
  refine .bind .position fun _ _ ↦ .bind .string? fun _ _ ↦ .bind yields_name fun name hname ↦ ?_
  refine .bind (yields_parameters depth) fun parameters hparameters ↦ .bind .punct fun _ _ ↦ ?_
  refine .bind (yields_typeExpr depth) fun type htype ↦ ?_
  exact .bind (yields_directives depth) fun _ _ ↦ .pure ⟨hname, htype, hparameters⟩

/-- Items between braces have what each of them has, and there are none without braces. -/
theorem yields_braced {α : Type} {P : α → Prop} {items : Nat → Parser (List α)}
    (h : ∀ depth, (items depth).Yields fun l ↦ ∀ a ∈ l, P a) (depth : Nat) :
    (braced items depth).Yields fun l ↦ ∀ a ∈ l, P a :=
  .bind (.enclosed? h depth) fun _ hfound ↦ .pure (forall_mem_getD hfound)

/-- Fields that are read are spelled. -/
theorem yields_fields (depth : Nat) : (fields depth).Yields fun fs ↦ ∀ f ∈ fs, f.Spelled :=
  yields_braced (fun depth ↦ .someBefore (yields_field depth)) depth

/-- The interfaces of a type. Nothing is asked of their names. -/
theorem yields_interfaces : interfaces.Yields fun _ ↦ True :=
  .bind_ite .accept
    (.bind .accept fun _ _ ↦ (Parser.Yields.separated .name).mono fun _ _ ↦ trivial) (.pure trivial)

/-- The members of a union. Nothing is asked of their names. -/
theorem yields_members : members.Yields fun _ ↦ True := by
  have hseparated : (Parser.separated .pipe Parser.name).Yields fun _ ↦ True :=
    (Parser.Yields.separated .name).mono fun _ _ ↦ trivial
  exact .bind_ite .accept (.bind_ite .accept hseparated (.insteadOf hseparated)) (.pure trivial)

/-- The values of an enum. Nothing is asked of their names. -/
theorem yields_enumValues (depth : Nat) : (enumValues depth).Yields fun _ ↦ True := by
  have hvalue (depth : Nat) : (enumValue depth).Yields fun _ ↦ True :=
    .bind .position fun _ _ ↦ .bind .string? fun _ _ ↦ .bind .name fun _ _ ↦
      .bind (yields_directives depth) fun _ _ ↦ .pure trivial
  refine (yields_braced (P := fun _ ↦ True) (fun depth ↦ ?_) depth).mono fun _ _ ↦ trivial
  exact .cons (.insteadOf (hvalue depth)) (.manyBefore (hvalue depth))

/-- The fields of an input object. Nothing is asked of their names. -/
theorem yields_inputFields (depth : Nat) : (inputFields depth).Yields fun _ ↦ True :=
  (yields_braced (fun depth ↦ .someBefore (yields_parameter depth)) depth).mono fun _ _ ↦ trivial

/-- The name of a type, and what is declared of it. -/
theorem yields_typeParts (kind : Kind) (depth : Nat) : (typeParts kind depth).Yields fun parts ↦
    NameLike parts.1 ∧ ∀ f ∈ parts.2.1.fields, f.Spelled := by
  have hnone : ∀ f ∈ ([] : List FieldDecl), f.Spelled := fun _ hf ↦ absurd hf List.not_mem_nil
  have hmarks := yields_directives depth
  refine .bind yields_name fun name hname ↦ ?_
  cases kind with
  | scalar => exact .bind hmarks fun _ _ ↦ .pure ⟨hname, hnone⟩
  | object =>
    exact .bind yields_interfaces fun _ _ ↦ .bind hmarks fun _ _ ↦
      .bind (yields_fields depth) fun _ hfields ↦ .pure ⟨hname, hfields⟩
  | interface =>
    exact .bind yields_interfaces fun _ _ ↦ .bind hmarks fun _ _ ↦
      .bind (yields_fields depth) fun _ hfields ↦ .pure ⟨hname, hfields⟩
  | union => exact .bind hmarks fun _ _ ↦ .bind yields_members fun _ _ ↦ .pure ⟨hname, hnone⟩
  | enum =>
    exact .bind hmarks fun _ _ ↦ .bind (yields_enumValues depth) fun _ _ ↦ .pure ⟨hname, hnone⟩
  | inputObject =>
    exact .bind hmarks fun _ _ ↦ .bind (yields_inputFields depth) fun _ _ ↦ .pure ⟨hname, hnone⟩

/-- An extension, which declares no type. -/
theorem yields_extended (depth : Nat) : (extended depth).Yields Spelled := by
  refine .bind .position fun _ _ ↦ .bind (.take fun _ _ _ _ ↦ trivial) fun kind _ ↦ ?_
  refine .bind (yields_typeParts kind depth) fun parts _ ↦ ?_
  show Parser.Yields (if parts.2.2 then _ else _) Spelled
  split
  · exact .pure trivial
  · exact .refuse

/-- A place where a directive may stand. -/
theorem yields_directivePlace : directivePlace.Yields fun _ ↦ True := by
  refine .bind .position fun _ _ ↦ .bind .name fun place _ ↦ ?_
  split
  · exact .pure trivial
  · exact .refuse

/-- The declaration of a directive, which declares no type. -/
theorem yields_directiveDecl (depth : Nat) : (directiveDecl depth).Yields Spelled := by
  refine .bind .punct fun _ _ ↦ .bind .name fun name _ ↦ ?_
  refine .bind (yields_parameters depth) fun _ _ ↦ ?_
  have hplaces : Parser.Yields (do
      let _ ← Parser.acceptPunct .pipe
      let _ ← Parser.separated .pipe directivePlace
      return Declaration.directive name) Spelled :=
    .bind .accept fun _ _ ↦ .bind (.separated yields_directivePlace) fun _ _ ↦ .pure trivial
  refine .bind_ite .accept (.bind .word fun _ _ ↦ .bind .peek fun next _ ↦ ?_)
    (.bind (.insteadOf .word) fun _ _ ↦ .bind .peek fun next _ ↦ ?_)
  all_goals
    split
    · exact hplaces
    · exact hplaces
    · exact .pure trivial

/-- A schema declaration, which declares no type. -/
theorem yields_schemaDecl (position : Position) (depth : Nat) :
    (schemaDecl position depth).Yields Spelled := by
  have hentry : rootEntry.Yields fun _ ↦ True :=
    .bind .name fun _ _ ↦ .bind .punct fun _ _ ↦ .bind .name fun _ _ ↦ .pure trivial
  refine .bind (yields_directives depth) fun _ _ ↦ ?_
  refine .bind (.enclosed (fun _ ↦ .manyBefore hentry) depth) fun entries _ ↦ ?_
  split
  · exact .pure trivial
  · exact .refuse

/-- Whatever declaration is read is spelled. -/
theorem yields_declaration (depth : Nat) : (declaration depth).Yields Spelled := by
  refine .bind .string? fun description _ ↦ .bind .position fun position _ ↦ ?_
  refine .bind (.take fun _ _ _ _ ↦ trivial) fun keyword _ ↦ ?_
  cases keyword with
  | directive => exact yields_directiveDecl depth
  | extend => exact yields_extended depth
  | schema => exact yields_schemaDecl position depth
  | type kind =>
    exact .bind (yields_typeParts kind depth) fun _ hparts ↦ .pure ⟨hparts.1, hparts.2⟩

/-- **What is read is spelled.** -/
theorem spelled_of_parse {text : String} {declarations : List Declaration}
    (h : parse text = .ok declarations) : ∀ d ∈ declarations, d.Spelled :=
  (Parser.Yields.document (yields_declaration nestingLimit)).parse h

end Declaration

/-! ### Types -/

/-- The names of a parameter are spelled. -/
structure Parameter.Spelled (p : Parameter) : Prop where
  /-- Its own name. -/
  name : NameLike p.name
  /-- The name in its type. -/
  type : NameLike p.annotation.innermost.name

/-- The names of a field are spelled. -/
structure Field.Spelled (f : Field) : Prop where
  /-- Its own name. -/
  name : NameLike f.name
  /-- The name in its type. -/
  type : NameLike f.annotation.innermost.name
  /-- Those of its parameters. -/
  parameters : ∀ p ∈ f.parameters.values, p.Spelled

/-- The names of a type and of its fields are spelled. -/
structure NamedType.Spelled (t : NamedType) : Prop where
  /-- Its own name. -/
  name : NameLike t.name
  /-- Those of its fields. -/
  fields : ∀ fields, t.fields? = some fields → ∀ f ∈ fields.values, f.Spelled

/-- The types are spelled, each with its fields and parameters. -/
def TypesSpelled (types : Dict NamedType) : Prop := ∀ t ∈ types.values, t.Spelled

/-- The name in a type stays the name when the places of its parts are noted with it. -/
theorem Annotation.nameLike_innermost {type : TypeExpr} (h : type.Proper) (location : Location) :
    NameLike (ofTypeExpr location type).innermost.name := by
  rw [ofTypeExpr, innermost_ofMarked]
  exact h.name

theorem Parameter.spelled_ofDecl {d : ParameterDecl} (h : d.Spelled) (file : Option String) :
    (Parameter.ofDecl file d).Spelled where
  name := h.name
  type := Annotation.nameLike_innermost h.type _

theorem Field.spelled_ofDecl {d : FieldDecl} (h : d.Spelled) (file : Option String)
    (parent : String) : (Field.ofDecl file parent d).Spelled where
  name := h.name
  type := Annotation.nameLike_innermost h.type _
  parameters p hp := by
    obtain ⟨e, he, rfl⟩ := Dict.exists_of_mem_values_ofList hp
    obtain ⟨parameter, hparameter, rfl⟩ := List.mem_map.1 he
    exact Parameter.spelled_ofDecl (h.parameters parameter hparameter) file

theorem NamedType.spelled_of_ofDecl {file : Option String} {decl : TypeDecl} {t : NamedType}
    (h : ofDecl file decl = .ok t) (hdecl : decl.Spelled) : t.Spelled where
  name := name_of_ofDecl h ▸ hdecl.name
  fields fields hfields f hf := by
    rw [Dict.values, entries_of_ofDecl h hfields, List.map_map] at hf
    obtain ⟨d, hd, rfl⟩ := List.mem_map.1 hf
    exact Field.spelled_ofDecl (hdecl.fields d hd) file decl.name

/-! ### Drafts and schemas -/

namespace Draft

variable {d d' : Draft}

/-- Declarations with spelled names keep the types of a draft spelled. -/
theorem Extends.typesSpelled {l : List Placed} (h : d.Extends l d') (hd : TypesSpelled d.types)
    (hl : ∀ p ∈ l, p.declaration.Spelled) : TypesSpelled d'.types := by
  intro t ht
  rw [h.values, List.mem_append] at ht
  rcases ht with ht | ht
  · exact hd t ht
  · obtain ⟨p, hp, htype⟩ := List.mem_filterMap.1 ht
    obtain ⟨decl, hdecl, hofDecl⟩ := Placed.type?_eq_some_iff.1 htype
    have hspelled := hl p hp
    rw [hdecl] at hspelled
    exact NamedType.spelled_of_ofDecl hofDecl hspelled

theorem typesSpelled_empty : TypesSpelled Draft.empty.types := by
  have hbuiltIn : ∀ t ∈ Draft.empty.types.values, NameLike t.name ∧ t.fields? = none := by
    decide +kernel
  intro t ht
  obtain ⟨hname, hfields⟩ := hbuiltIn t ht
  refine ⟨hname, fun fields h ↦ ?_⟩
  rw [hfields] at h
  cases h

theorem typesSpelled_of_loadDocuments {docs : List SchemaDocument}
    (hdocs : ∀ doc ∈ docs, ∀ declaration ∈ doc.declarations, declaration.Spelled)
    (h : Draft.empty.loadDocuments docs = .ok d) : TypesSpelled d.types := by
  rw [loadDocuments_eq_foldlM] at h
  refine (extends_of_foldlM h).typesSpelled typesSpelled_empty fun p hp ↦ ?_
  obtain ⟨doc, hdoc, hp⟩ := List.mem_flatMap.1 hp
  obtain ⟨declaration, hdeclaration, rfl⟩ := List.mem_map.1 hp
  exact hdocs doc hdoc declaration hdeclaration

/-- Loading a text keeps the types of a draft spelled, whatever the text is. -/
theorem typesSpelled_of_loadText {file : Option String} {text : String}
    (h : d.loadText file text = .ok d') (hd : TypesSpelled d.types) : TypesSpelled d'.types := by
  rw [loadText] at h
  split at h
  · cases h
  · rename_i declarations hparse
    have hfold : (declarations.map (Placed.mk file)).foldlM addPlaced d = .ok d' :=
      List.foldlM_map.trans h
    refine (extends_of_foldlM hfold).typesSpelled hd fun p hp ↦ ?_
    obtain ⟨declaration, hdeclaration, rfl⟩ := List.mem_map.1 hp
    exact Declaration.spelled_of_parse hparse declaration hdeclaration

theorem typesSpelled_of_loadTexts {sources : List SourceText}
    (h : Draft.empty.loadTexts sources = .ok d) : TypesSpelled d.types :=
  foldlM_keeps (P := fun d ↦ TypesSpelled d.types) typesSpelled_of_loadText h typesSpelled_empty

theorem typesSpelled_of_loadFile {disk : Disk} {path : String}
    (h : d.loadFile disk path = .ok d') (hd : TypesSpelled d.types) : TypesSpelled d'.types := by
  rw [loadFile] at h
  split at h
  · cases h
  · exact typesSpelled_of_loadText h hd

theorem typesSpelled_of_loadFiles {disk : Disk} {paths : List String}
    (h : Draft.empty.loadFiles disk paths = .ok d) : TypesSpelled d.types :=
  foldlM_keeps (P := fun d ↦ TypesSpelled d.types) typesSpelled_of_loadFile h typesSpelled_empty

theorem types_of_build {s : Schema} (h : d.build = .ok s) : s.types = d.types := by
  obtain ⟨-, _, _, _, -, -, -, rfl⟩ := build_eq_ok_iff.1 h
  rfl

end Draft

/-- A schema that comes from texts is spelled. -/
theorem Schema.typesSpelled_of_ofTexts {sources : List SourceText} {s : Schema}
    (h : ofTexts sources = .ok s) : TypesSpelled s.types := by
  obtain ⟨d, hd, hs⟩ := bind_eq_ok_iff.1 h
  rw [Draft.types_of_build hs]
  exact Draft.typesSpelled_of_loadTexts hd

/-- A schema that comes from files is spelled. -/
theorem Schema.typesSpelled_of_ofFiles {disk : Disk} {paths : List String} {s : Schema}
    (h : ofFiles disk paths = .ok s) : TypesSpelled s.types := by
  obtain ⟨d, hd, hs⟩ := bind_eq_ok_iff.1 h
  rw [Draft.types_of_build hs]
  exact Draft.typesSpelled_of_loadFiles hd

end GraphQLCheck
