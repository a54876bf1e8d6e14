import GraphQLCheck.Proofs.Dict
import GraphQLCheck.Schema.Load

/-!
# Drafts that loading reaches, and the schemas built from them

A draft is **reachable** when successful loads lead to it from the empty one (`Draft.Reachable`);
loading texts and loading files are loads of the declarations in them, so they reach nothing else
(`Reachable.loadTexts`, `Reachable.loadFiles`). A schema is **built** when it is what some reachable
draft builds to (`Schema.Built`).

Loading changes the types of a draft in one way only: a type declaration puts its type, under a name
that was free, after all others (`addTypeDecl_eq_ok_iff`). So whatever holds of the built-in types
and survives such a step holds of every reachable draft (`Reachable.types_induction`). The first use
of this is that all things in a draft stand under their own names (`Reachable.byName`).
-/

namespace GraphQLCheck

/-! ### Steps that may fail -/

section Steps

variable {ε α β : Type}

/-- Two steps succeed when the first gives something with which the second succeeds. -/
theorem bind_eq_ok_iff {x : Except ε α} {f : α → Except ε β} {b : β} :
    (x >>= f) = .ok b ↔ ∃ a, x = .ok a ∧ f a = .ok b := by
  cases x with
  | error e => exact ⟨fun h ↦ (nomatch h), fun ⟨_, h, _⟩ ↦ (nomatch h)⟩
  | ok a => exact ⟨fun h ↦ ⟨a, rfl, h⟩, fun ⟨_, ha, h⟩ ↦ Except.ok.inj ha ▸ h⟩

/-- What every step of a run keeps, a successful run keeps. -/
theorem foldlM_keeps {f : β → α → Except ε β} {P : β → Prop}
    (step : ∀ {b b' : β} {a : α}, f b a = .ok b' → P b → P b') {l : List α} {b b' : β}
    (h : l.foldlM f b = .ok b') (hb : P b) : P b' := by
  induction l generalizing b with
  | nil =>
    rw [List.foldlM_nil] at h
    exact Except.ok.inj h ▸ hb
  | cons a l ih =>
    rw [List.foldlM_cons] at h
    obtain ⟨c, hc, hrest⟩ := bind_eq_ok_iff.1 h
    exact ih hrest (step hc hb)

/-- A successful run can be followed step by step in other states, with other inputs. -/
theorem foldlM_map_eq_ok {γ δ : Type} {f : β → α → Except ε β} {g : γ → δ → Except ε γ}
    {φ : β → γ} {ψ : α → δ}
    (step : ∀ {b b' : β} {a : α}, f b a = .ok b' → g (φ b) (ψ a) = .ok (φ b')) {l : List α}
    {b b' : β} (h : l.foldlM f b = .ok b') : (l.map ψ).foldlM g (φ b) = .ok (φ b') := by
  induction l generalizing b with
  | nil =>
    rw [List.foldlM_nil] at h
    rw [List.map_nil, List.foldlM_nil, Except.ok.inj h]
    rfl
  | cons a l ih =>
    rw [List.foldlM_cons] at h
    obtain ⟨c, hc, hrest⟩ := bind_eq_ok_iff.1 h
    rw [List.map_cons, List.foldlM_cons]
    exact bind_eq_ok_iff.2 ⟨φ c, step hc, ih hrest⟩

end Steps

/-! ### What a declaration adds -/

namespace Draft

variable {d d' : Draft} {file : Option String}

theorem types_of_addRoot {location : Location} {entry : OperationKind × Option String}
    (h : d.addRoot location entry = .ok d') : d'.types = d.types := by
  obtain ⟨operation, type?⟩ := entry
  cases type? with
  | none => exact Except.ok.inj h ▸ rfl
  | some type =>
    simp only [addRoot] at h
    split at h
    · exact nomatch h
    · rw [← Except.ok.inj h]
      cases operation <;> rfl

/-- A schema declaration leaves the types alone. -/
theorem types_of_addSchema {decl : SchemaDecl} (h : d.addSchema file decl = .ok d') :
    d'.types = d.types :=
  foldlM_keeps (P := fun e ↦ e.types = d.types) (fun hstep he ↦ (types_of_addRoot hstep).trans he)
    h rfl

/-- A type is added exactly when its name is neither reserved nor in use, and then it comes last. -/
theorem addType_eq_ok_iff {t : NamedType} :
    d.addType t = .ok d' ↔ isReserved t.name = false ∧ d.types.get? t.name = none ∧
      d' = { d with types := d.types.insert t.name t } := by
  rw [addType]
  by_cases hr : isReserved t.name = true
  · rw [if_pos hr, hr]
    exact ⟨fun h ↦ (nomatch h), fun h ↦ (nomatch h.1)⟩
  · rw [if_neg hr]
    cases hk : d.types.get? t.name with
    | some known => exact ⟨fun h ↦ (nomatch h), fun h ↦ (nomatch h.2.1)⟩
    | none =>
      refine ⟨fun h ↦ ⟨Bool.eq_false_iff.2 hr, rfl, (Except.ok.inj h).symm⟩, ?_⟩
      rintro ⟨-, -, rfl⟩
      rfl

theorem addTypeDecl_eq_ok_iff {decl : TypeDecl} :
    d.addTypeDecl file decl = .ok d' ↔ ∃ t, NamedType.ofDecl file decl = .ok t ∧
      isReserved t.name = false ∧ d.types.get? t.name = none ∧
        d' = { d with types := d.types.insert t.name t } := by
  rw [addTypeDecl]
  cases hofDecl : NamedType.ofDecl file decl with
  | error repeated => exact ⟨fun h ↦ (nomatch h), fun ⟨_, h, _⟩ ↦ (nomatch h)⟩
  | ok t =>
    refine addType_eq_ok_iff.trans ⟨fun h ↦ ⟨t, rfl, h⟩, ?_⟩
    rintro ⟨u, hu, h⟩
    exact Except.ok.inj hu ▸ h

/-! ### Reachable drafts -/

/-- The drafts that successful loads lead to. -/
inductive Reachable : Draft → Prop
  /-- Nothing has been loaded. -/
  | empty : Reachable .empty
  /-- The declarations of one more document have been loaded. -/
  | load {d d' : Draft} (file : Option String) (declarations : List Declaration) :
    Reachable d → d.load file declarations = .ok d' → Reachable d'

namespace Reachable

theorem loadText {text : String} (hd : d.Reachable) (h : d.loadText file text = .ok d') :
    d'.Reachable := by
  rw [Draft.loadText] at h
  split at h
  · exact nomatch h
  · exact hd.load file _ h

/-- Loading texts is loading the declarations in them. -/
theorem loadTexts {sources : List SourceText} (hd : d.Reachable)
    (h : d.loadTexts sources = .ok d') : d'.Reachable :=
  foldlM_keeps (fun hstep hr ↦ hr.loadText hstep) h hd

theorem loadFile {disk : Disk} {path : String} (hd : d.Reachable)
    (h : d.loadFile disk path = .ok d') : d'.Reachable := by
  rw [Draft.loadFile] at h
  split at h
  · exact nomatch h
  · exact hd.loadText h

/-- Loading files is loading the declarations in them. -/
theorem loadFiles {disk : Disk} {paths : List String} (hd : d.Reachable)
    (h : d.loadFiles disk paths = .ok d') : d'.Reachable :=
  foldlM_keeps (fun hstep hr ↦ hr.loadFile hstep) h hd

/-- **Induction on the types of a reachable draft.** What holds of the built-in types, and survives
putting a declared type with a new name at the end, holds of the types of every reachable draft. -/
theorem types_induction {P : Dict NamedType → Prop} (builtIn : P Draft.empty.types)
    (insert : ∀ {types : Dict NamedType} {file : Option String} {decl : TypeDecl} {t : NamedType},
      P types → NamedType.ofDecl file decl = .ok t → isReserved t.name = false →
        types.get? t.name = none → P (types.insert t.name t))
    (hd : d.Reachable) : P d.types := by
  have step : ∀ {file : Option String} {d d' : Draft} {decl : Declaration},
      d.add file decl = .ok d' → P d.types → P d'.types := by
    intro file d d' decl h hP
    cases decl with
    | schema decl => exact types_of_addSchema h ▸ hP
    | type decl =>
      obtain ⟨t, ht, hr, hnew, rfl⟩ := addTypeDecl_eq_ok_iff.1 h
      exact insert hP ht hr hnew
    | extension name => exact Except.ok.inj h ▸ hP
    | directive name => exact Except.ok.inj h ▸ hP
  induction hd with
  | empty => exact builtIn
  | load file declarations _ h ih => exact foldlM_keeps (P := fun d ↦ P d.types) step h ih

end Reachable

end Draft

/-! ### Built schemas -/

/-- A draft builds to a schema exactly when nothing is wrong with its types and every operation has
its root type settled, that of queries with a type; then the schema has the types of the draft. -/
theorem Draft.build_eq_ok_iff {d : Draft} {s : Schema} :
    d.build = .ok s ↔ violations d.types = [] ∧
      ∃ query mutation subscription, resolveRoot d.types .query d.query? = .ok (some query) ∧
        resolveRoot d.types .mutation d.mutation? = .ok mutation ∧
        resolveRoot d.types .subscription d.subscription? = .ok subscription ∧
        s = ⟨query, mutation, subscription, d.types, possibleTypes d.types⟩ := by
  unfold build
  constructor
  · intro h
    simp only at h
    split at h
    · exact nomatch h
    · rename_i hfound
      obtain ⟨query?, hquery, h⟩ := bind_eq_ok_iff.1 h
      cases query? with
      | none => exact nomatch h
      | some query =>
        obtain ⟨mutation, hmutation, h⟩ := bind_eq_ok_iff.1 h
        obtain ⟨subscription, hsubscription, h⟩ := bind_eq_ok_iff.1 h
        exact ⟨by simpa using hfound, query, mutation, subscription, hquery, hmutation,
          hsubscription, (Except.ok.inj h).symm⟩
  · rintro ⟨hfound, query, mutation, subscription, hquery, hmutation, hsubscription, rfl⟩
    simp only [hfound, hquery, hmutation, hsubscription]
    rfl

/-- The schemas that reachable drafts build to. -/
def Schema.Built (s : Schema) : Prop := ∃ d : Draft, d.Reachable ∧ d.build = .ok s

theorem Schema.built_of_ofTexts {sources : List SourceText} {s : Schema}
    (h : Schema.ofTexts sources = .ok s) : s.Built := by
  obtain ⟨d, hd, hs⟩ := bind_eq_ok_iff.1 h
  exact ⟨d, Draft.Reachable.empty.loadTexts hd, hs⟩

theorem Schema.built_of_ofFiles {disk : Disk} {paths : List String} {s : Schema}
    (h : Schema.ofFiles disk paths = .ok s) : s.Built := by
  obtain ⟨d, hd, hs⟩ := bind_eq_ok_iff.1 h
  exact ⟨d, Draft.Reachable.empty.loadFiles hd, hs⟩

/-! ### Everything under its own name -/

/-- The things that a type holds stand under their own names. -/
def Shape.ByName : Shape → Prop
  | .enum values => values.ByName EnumValue.name
  | .input fields => fields.ByName Parameter.name
  | .interface fields _ | .object fields _ =>
    fields.ByName Field.name ∧ ∀ f ∈ fields.values, f.parameters.ByName Parameter.name
  | .scalar => True
  | .union members => members.ByName TypeRef.name

theorem Shape.ByName.fields {t : NamedType} (h : t.shape.ByName) {fields : Dict Field}
    (hfields : t.fields? = some fields) :
    fields.ByName Field.name ∧ ∀ f ∈ fields.values, f.parameters.ByName Parameter.name := by
  rw [NamedType.fields?] at hfields
  split at hfields
  · rename_i hshape
    rw [← Option.some.inj hfields]
    exact (show Shape.ByName (.interface _ _) from hshape ▸ h)
  · rename_i hshape
    rw [← Option.some.inj hfields]
    exact (show Shape.ByName (.object _ _) from hshape ▸ h)
  · exact nomatch hfields

theorem Parameter.byName_ofDecls (file : Option String) (ds : List ParameterDecl) :
    (Parameter.ofDecls file ds).ByName Parameter.name := by
  refine Dict.ByName.ofList fun e he ↦ ?_
  obtain ⟨d, -, rfl⟩ := List.mem_map.1 he
  rfl

/-- What `fieldsOfDecls` promises of its fields, one added field at a time. -/
theorem byName_of_fieldsOfDecls {file : Option String} {parent : String} {ds : List FieldDecl}
    {fields : Dict Field} (h : fieldsOfDecls file parent ds = .ok fields) :
    fields.ByName Field.name ∧ ∀ f ∈ fields.values, f.parameters.ByName Parameter.name := by
  refine foldlM_keeps (P := fun fields : Dict Field ↦ fields.ByName Field.name ∧
    ∀ f ∈ fields.values, f.parameters.ByName Parameter.name) ?_ h
    ⟨.empty, fun _ hf ↦ absurd hf List.not_mem_nil⟩
  intro fields fields' decl hstep ⟨hname, hparameters⟩
  rw [addField] at hstep
  split at hstep
  · exact nomatch hstep
  · rename_i hnew
    rw [← Except.ok.inj hstep]
    refine ⟨hname.insert rfl, fun f hf ↦ ?_⟩
    rw [Dict.values_insert hnew, List.mem_append, List.mem_singleton] at hf
    rcases hf with hf | rfl
    · exact hparameters f hf
    · exact Parameter.byName_ofDecls file decl.parameters

theorem Shape.byName_of_ofDecl {file : Option String} {decl : TypeDecl} {shape : Shape}
    (h : Shape.ofDecl file decl = .ok shape) : shape.ByName := by
  rw [Shape.ofDecl] at h
  cases hbody : decl.body <;> rw [hbody] at h
  case enum values =>
    rw [← Except.ok.inj h]
    refine Dict.ByName.ofList fun e he ↦ ?_
    obtain ⟨v, -, rfl⟩ := List.mem_map.1 he
    rfl
  case input fields =>
    rw [← Except.ok.inj h]
    exact Parameter.byName_ofDecls file fields
  case interface interfaces fields =>
    obtain ⟨fields', hfields, hshape⟩ := bind_eq_ok_iff.1 h
    rw [← Except.ok.inj hshape]
    exact byName_of_fieldsOfDecls hfields
  case object interfaces fields =>
    obtain ⟨fields', hfields, hshape⟩ := bind_eq_ok_iff.1 h
    rw [← Except.ok.inj hshape]
    exact byName_of_fieldsOfDecls hfields
  case scalar =>
    rw [← Except.ok.inj h]
    trivial
  case union members =>
    rw [← Except.ok.inj h]
    refine Dict.ByName.ofList fun e he ↦ ?_
    obtain ⟨r, -, rfl⟩ := List.mem_map.1 he
    rfl

theorem NamedType.byName_of_ofDecl {file : Option String} {decl : TypeDecl} {t : NamedType}
    (h : NamedType.ofDecl file decl = .ok t) : t.shape.ByName := by
  obtain ⟨shape, hshape, ht⟩ := bind_eq_ok_iff.1 h
  rw [← Except.ok.inj ht]
  exact Shape.byName_of_ofDecl hshape

/-- The types stand under their own names, and so do the things that they hold. -/
structure TypesByName (types : Dict NamedType) : Prop where
  /-- The types stand under their own names. -/
  names : types.ByName NamedType.name
  /-- The things that the types hold stand under their own names. -/
  shapes : ∀ t ∈ types.values, t.shape.ByName

/-- All things in a reachable draft stand under their own names. -/
theorem Draft.Reachable.byName {d : Draft} (hd : d.Reachable) : TypesByName d.types := by
  refine hd.types_induction ?_ ?_
  · refine ⟨Dict.ByName.ofList fun e he ↦ ?_, fun t ht ↦ ?_⟩
    · obtain ⟨s, -, rfl⟩ := List.mem_map.1 he
      rfl
    · have hscalar : ∀ t ∈ Draft.empty.types.values, t.shape = .scalar := by decide
      rw [hscalar t ht]
      trivial
  · intro types file decl t ⟨hnames, hshapes⟩ ht _ hnew
    refine ⟨hnames.insert rfl, fun u hu ↦ ?_⟩
    rw [Dict.values_insert hnew, List.mem_append, List.mem_singleton] at hu
    rcases hu with hu | rfl
    · exact hshapes u hu
    · exact NamedType.byName_of_ofDecl ht

/-- All things in a built schema stand under their own names. -/
theorem Schema.Built.byName {s : Schema} (h : s.Built) : TypesByName s.types := by
  obtain ⟨d, hd, hs⟩ := h
  obtain ⟨-, _, _, _, -, -, -, rfl⟩ := Draft.build_eq_ok_iff.1 hs
  exact hd.byName

/-! ### The built-in scalars -/

/-- No declaration touches a type that a schema begins with. -/
theorem Draft.Reachable.get?_of_empty {d : Draft} (hd : d.Reachable) {name : String} {t : NamedType}
    (h : Draft.empty.types.get? name = some t) : d.types.get? name = some t := by
  refine hd.types_induction (P := fun types ↦ types.get? name = some t) h ?_
  intro types file decl u ht _ _ hnew
  -- the new name is free, so it is not that of the type
  have hne : name ≠ u.name := by
    rintro rfl
    rw [hnew] at ht
    exact nomatch ht
  rw [Dict.get?_insert, if_neg hne]
  exact ht

/-- A schema begins with each of the built-in scalars. -/
theorem Draft.get?_builtIn (b : BuiltInScalar) :
    ∃ description, empty.types.get? b.name = some (builtInType b.name description) := by
  cases b <;> exact ⟨_, rfl⟩

/-- A built schema has the built-in scalars. -/
theorem Schema.Built.type?_builtIn {s : Schema} (h : s.Built) (b : BuiltInScalar) :
    ∃ description, s.type? b.name = some (Draft.builtInType b.name description) := by
  obtain ⟨d, hd, hs⟩ := h
  obtain ⟨-, _, _, _, -, -, -, rfl⟩ := Draft.build_eq_ok_iff.1 hs
  obtain ⟨description, hb⟩ := Draft.get?_builtIn b
  exact ⟨description, hd.get?_of_empty hb⟩

end GraphQLCheck
