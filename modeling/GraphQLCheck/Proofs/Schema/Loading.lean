import GraphQLCheck.Proofs.Schema.Built
import Mathlib.Data.List.Forall2

/-!
# What loading adds up to

Documents are loaded one declaration after the other, wherever the documents are cut
(`Draft.loadDocuments_eq_foldlM`). A declaration that is added leaves what was there as it is: it
puts its type after all others and names root types that had no name before (`Draft.Extends`). So
what a run of declarations adds is all that they declare, in order (`Draft.extends_of_foldlM`).

A run succeeds exactly when its declarations are admissible (`Draft.exists_foldlM_iff`): each is
sound in itself, no two types share a name, with each other or with one that was there before, and
no operation gets two root types (`Draft.Admits`). None of this depends on the order of the
declarations.
-/

namespace GraphQLCheck

/-! ### Declarations in their files -/

/-- The root type that a schema declaration names for an operation. -/
def SchemaDecl.root? (decl : SchemaDecl) : OperationKind → Option String
  | .query => decl.query?
  | .mutation => decl.mutation?
  | .subscription => decl.subscription?

/-- A declaration, and the file that it stands in. -/
structure Placed where
  /-- The file. -/
  file? : Option String
  /-- The declaration. -/
  declaration : Declaration

namespace Placed

/-- The type that is declared, if there is one and no field of it is repeated. -/
def type? (p : Placed) : Option NamedType :=
  match p.declaration with
  | .type decl => (NamedType.ofDecl p.file? decl).toOption
  | _ => none

/-- A declaration gives a type if it declares one that can be made. -/
theorem type?_eq_some_iff {p : Placed} {t : NamedType} :
    p.type? = some t ↔
      ∃ decl, p.declaration = .type decl ∧ NamedType.ofDecl p.file? decl = .ok t := by
  obtain ⟨file?, declaration⟩ := p
  cases declaration with
  | type decl =>
    rw [type?]
    cases hofDecl : NamedType.ofDecl file? decl <;> simp [hofDecl, Except.toOption]
  | schema decl => simp [type?]
  | extension name => simp [type?]
  | directive name => simp [type?]

/-- The root type that is named for an operation. -/
def root? (operation : OperationKind) (p : Placed) : Option RootDecl :=
  match p.declaration with
  | .schema decl => (decl.root? operation).map (RootDecl.mk (.written p.file? decl.position))
  | _ => none

/-- A type declaration is sound if it repeats no field and its name is not reserved. All other
declarations are. -/
def Sound (p : Placed) : Prop :=
  match p.declaration with
  | .type decl => ∃ t, NamedType.ofDecl p.file? decl = .ok t ∧ Draft.isReserved t.name = false
  | _ => True

end Placed

/-- The types that some declarations declare, in order. -/
def declaredTypes (l : List Placed) : List NamedType := l.filterMap Placed.type?

/-- The root types that some declarations name for an operation, in order. -/
def declaredRoots (operation : OperationKind) (l : List Placed) : List RootDecl :=
  l.filterMap (Placed.root? operation)

/-- The types of some declarations and of others come one after the other. -/
theorem declaredTypes_append (l l' : List Placed) :
    declaredTypes (l ++ l') = declaredTypes l ++ declaredTypes l' :=
  List.filterMap_append

theorem declaredTypes_type {file? : Option String} {decl : TypeDecl} {t : NamedType}
    (h : NamedType.ofDecl file? decl = .ok t) : declaredTypes [⟨file?, .type decl⟩] = [t] := by
  simp [declaredTypes, Placed.type?, h, Except.toOption]

theorem declaredRoots_append (operation : OperationKind) (l l' : List Placed) :
    declaredRoots operation (l ++ l') = declaredRoots operation l ++ declaredRoots operation l' :=
  List.filterMap_append

namespace Draft

/-- Adds a declaration of a file. -/
def addPlaced (d : Draft) (p : Placed) : Except BuildError Draft := d.add p.file? p.declaration

/-! ### What is added -/

/-- A draft is another one with some declarations added. -/
structure Extends (d : Draft) (l : List Placed) (d' : Draft) : Prop where
  /-- The declarations are sound. -/
  sound : ∀ p ∈ l, p.Sound
  /-- Their types come after those that were there, each under its own name. -/
  types : d'.types.entries = d.types.entries ++ (declaredTypes l).map fun t ↦ (t.name, t)
  /-- Their root types come to those that were there, of which there can be one in all. -/
  roots : ∀ operation,
    (d'.root? operation).toList = (d.root? operation).toList ++ declaredRoots operation l

namespace Extends

variable {d d' d'' : Draft} {l l' : List Placed}

/-- No declarations change nothing. -/
theorem refl (d : Draft) : d.Extends [] d where
  sound _ hp := absurd hp List.not_mem_nil
  types := (List.append_nil _).symm
  roots _ := (List.append_nil _).symm

/-- Declarations in two goes extend a draft by all of them. -/
theorem trans (h : d.Extends l d') (h' : d'.Extends l' d'') : d.Extends (l ++ l') d'' where
  sound p hp := (List.mem_append.1 hp).elim (h.sound p) (h'.sound p)
  types := by
    rw [h'.types, h.types, declaredTypes_append, List.map_append, List.append_assoc]
  roots operation := by
    rw [h'.roots, h.roots, declaredRoots_append, List.append_assoc]

/-- The names of the declared types come after those that were there. -/
theorem keys (h : d.Extends l d') :
    d'.types.keys = d.types.keys ++ (declaredTypes l).map NamedType.name := by
  simp [Dict.keys, h.types, Function.comp_def]

/-- The declared types come after those that were there. -/
theorem values (h : d.Extends l d') : d'.types.values = d.types.values ++ declaredTypes l := by
  simp [Dict.values, h.types, Function.comp_def]

end Extends

/-- The root types that the entries of a schema declaration name for an operation. -/
def entryRoots (location : Location) (operation : OperationKind)
    (entries : List (OperationKind × Option String)) : List RootDecl :=
  entries.filterMap fun e ↦ if e.1 = operation then e.2.map (RootDecl.mk location) else none

theorem entryRoots_append (location : Location) (operation : OperationKind)
    (entries entries' : List (OperationKind × Option String)) :
    entryRoots location operation (entries ++ entries') =
      entryRoots location operation entries ++ entryRoots location operation entries' :=
  List.filterMap_append

/-- The entries of a schema declaration name one root type for each operation, or none. -/
theorem entryRoots_schema (file? : Option String) (decl : SchemaDecl) (operation : OperationKind) :
    entryRoots (.written file? decl.position) operation
        [(.query, decl.query?), (.mutation, decl.mutation?), (.subscription, decl.subscription?)] =
      declaredRoots operation [⟨file?, .schema decl⟩] := by
  obtain ⟨position, query?, mutation?, subscription?⟩ := decl
  cases operation <;> cases query? <;> cases mutation? <;> cases subscription? <;> rfl

/-- Setting the root type of one operation leaves those of the others. -/
theorem root?_setRoot (d : Draft) (operation operation' : OperationKind) (root : RootDecl) :
    (d.setRoot operation root).root? operation' =
      if operation = operation' then some root else d.root? operation' := by
  cases operation <;> cases operation' <;> rfl

variable {d d' : Draft} {location : Location}

/-- An entry that is accepted names a root type where there was none. -/
theorem roots_of_addRoot {entry : OperationKind × Option String}
    (h : d.addRoot location entry = .ok d') (operation : OperationKind) :
    (d'.root? operation).toList =
      (d.root? operation).toList ++ entryRoots location operation [entry] := by
  obtain ⟨operation', type?⟩ := entry
  cases type? with
  | none =>
    rw [← Except.ok.inj h]
    simp [entryRoots]
  | some type =>
    simp only [addRoot] at h
    split at h
    · cases h
    · rename_i hnone
      rw [← Except.ok.inj h, root?_setRoot]
      by_cases heq : operation' = operation
      · rw [← heq, hnone]
        simp [entryRoots]
      · simp [entryRoots, heq]

/-- Entries that are accepted name at most one root type for each operation. -/
theorem roots_of_foldlM_addRoot {entries : List (OperationKind × Option String)}
    (h : entries.foldlM (addRoot location) d = .ok d') (operation : OperationKind) :
    (d'.root? operation).toList =
      (d.root? operation).toList ++ entryRoots location operation entries := by
  induction entries generalizing d with
  | nil =>
    rw [← Except.ok.inj h]
    exact (List.append_nil _).symm
  | cons e entries ih =>
    rw [List.foldlM_cons] at h
    obtain ⟨d₁, hstep, hrest⟩ := bind_eq_ok_iff.1 h
    rw [ih hrest, roots_of_addRoot hstep, List.append_assoc, ← entryRoots_append]
    rfl

/-- **One step.** A declaration that is added extends the draft by itself. -/
theorem extends_of_addPlaced {p : Placed} (h : d.addPlaced p = .ok d') : d.Extends [p] d' := by
  obtain ⟨file?, declaration⟩ := p
  cases declaration with
  | schema decl =>
    refine ⟨by simp [Placed.Sound], ?_, fun operation ↦ ?_⟩
    · rw [types_of_addSchema h]
      exact (List.append_nil _).symm
    · rw [roots_of_foldlM_addRoot h, entryRoots_schema]
  | type decl =>
    obtain ⟨t, ht, hreserved, hnew, rfl⟩ := addTypeDecl_eq_ok_iff.1 h
    refine ⟨?_, ?_, fun operation ↦ (List.append_nil _).symm⟩
    · simpa [Placed.Sound] using ⟨t, ht, hreserved⟩
    · rw [Dict.entries_insert hnew, declaredTypes_type ht]
      rfl
  | extension name =>
    rw [← Except.ok.inj h]
    exact ⟨by simp [Placed.Sound], (List.append_nil _).symm, fun _ ↦ (List.append_nil _).symm⟩
  | directive name =>
    rw [← Except.ok.inj h]
    exact ⟨by simp [Placed.Sound], (List.append_nil _).symm, fun _ ↦ (List.append_nil _).symm⟩

/-- **A whole run.** Declarations that are added one after the other extend the draft by all of
them. -/
theorem extends_of_foldlM {l : List Placed} (h : l.foldlM addPlaced d = .ok d') :
    d.Extends l d' := by
  induction l generalizing d with
  | nil => exact Except.ok.inj h ▸ .refl d
  | cons p l ih =>
    rw [List.foldlM_cons] at h
    obtain ⟨d₁, hstep, hrest⟩ := bind_eq_ok_iff.1 h
    exact (extends_of_addPlaced hstep).trans (ih hrest)

/-! ### What can be added -/

/-- Declarations that can be added to a draft: they clash neither with it nor with each other. -/
structure Admits (d : Draft) (l : List Placed) : Prop where
  /-- The declarations are sound. -/
  sound : ∀ p ∈ l, p.Sound
  /-- No two types have one name. -/
  names : (d.types.keys ++ (declaredTypes l).map NamedType.name).Nodup
  /-- No operation has two root types. -/
  roots : ∀ operation, ((d.root? operation).toList ++ declaredRoots operation l).length ≤ 1

/-- A draft admits no declarations at all. -/
theorem admits_nil (d : Draft) : d.Admits [] where
  sound _ hp := absurd hp List.not_mem_nil
  names := (List.append_nil _).symm ▸ d.types.keys_nodup
  roots operation := by
    rcases d.root? operation with - | root <;> simp [declaredRoots]

/-- What can be added in two runs can be added in one. -/
theorem Extends.admits_append_iff {l l' : List Placed} (h : d.Extends l d') :
    d.Admits (l ++ l') ↔ d'.Admits l' := by
  constructor
  · rintro ⟨hsound, hnames, hroots⟩
    refine ⟨fun p hp ↦ hsound p (List.mem_append_right l hp), ?_, fun operation ↦ ?_⟩
    · rwa [h.keys, List.append_assoc, ← List.map_append, ← declaredTypes_append]
    · rw [h.roots, List.append_assoc, ← declaredRoots_append]
      exact hroots operation
  · rintro ⟨hsound, hnames, hroots⟩
    refine ⟨fun p hp ↦ (List.mem_append.1 hp).elim (h.sound p) (hsound p), ?_, fun operation ↦ ?_⟩
    · rwa [declaredTypes_append, List.map_append, ← List.append_assoc, ← h.keys]
    · rw [declaredRoots_append, ← List.append_assoc, ← h.roots]
      exact hroots operation

/-- What comes first among admitted declarations is admitted. -/
theorem Admits.of_append {l l' : List Placed} (h : d.Admits (l ++ l')) : d.Admits l where
  sound p hp := h.sound p (List.mem_append_left l' hp)
  names := by
    have hnames := h.names
    rw [declaredTypes_append, List.map_append, ← List.append_assoc] at hnames
    exact (List.nodup_append.1 hnames).1
  roots operation := by
    have hroots := h.roots operation
    rw [declaredRoots_append, ← List.append_assoc, List.length_append] at hroots
    exact Nat.le_trans (Nat.le_add_right _ _) hroots

/-- Entries are accepted if no operation has two root types in the end. -/
theorem exists_foldlM_addRoot {entries : List (OperationKind × Option String)}
    (h : ∀ operation,
      ((d.root? operation).toList ++ entryRoots location operation entries).length ≤ 1) :
    ∃ d', entries.foldlM (addRoot location) d = .ok d' := by
  induction entries generalizing d with
  | nil => exact ⟨d, rfl⟩
  | cons e entries ih =>
    have hstep : ∃ d₁, d.addRoot location e = .ok d₁ := by
      obtain ⟨operation, type?⟩ := e
      cases type? with
      | none => exact ⟨d, rfl⟩
      | some type =>
        -- the entry has the only place, so none was named before
        have hnone : d.root? operation = none := by
          have hle := h operation
          rcases hroot : d.root? operation with - | root
          · rfl
          · simp [hroot, entryRoots] at hle
        exact ⟨d.setRoot operation ⟨location, type⟩, by simp only [addRoot, hnone]⟩
    obtain ⟨d₁, hd₁⟩ := hstep
    obtain ⟨d', hd'⟩ := ih (d := d₁) fun operation ↦ by
      rw [roots_of_addRoot hd₁, List.append_assoc, ← entryRoots_append]
      exact h operation
    exact ⟨d', by rw [List.foldlM_cons, hd₁]; exact hd'⟩

/-- One declaration that is admissible can be added. -/
theorem Admits.exists_addPlaced {p : Placed} (h : d.Admits [p]) :
    ∃ d', d.addPlaced p = .ok d' := by
  obtain ⟨file?, declaration⟩ := p
  cases declaration with
  | schema decl =>
    refine exists_foldlM_addRoot fun operation ↦ ?_
    rw [entryRoots_schema]
    exact h.roots operation
  | type decl =>
    -- the name is neither reserved, as the declaration is sound, nor in use
    obtain ⟨t, ht, hreserved⟩ := h.sound _ List.mem_cons_self
    have hnew : d.types.get? t.name = none := by
      have hdisjoint := (List.nodup_append.1 h.names).2.2
      rw [declaredTypes_type ht] at hdisjoint
      exact Dict.get?_eq_none_iff.2 fun hmem ↦ hdisjoint _ hmem _ List.mem_cons_self rfl
    exact ⟨_, addTypeDecl_eq_ok_iff.2 ⟨t, ht, hreserved, hnew, rfl⟩⟩
  | extension name => exact ⟨d, rfl⟩
  | directive name => exact ⟨d, rfl⟩

/-- **Success of a run.** Declarations can be added one after the other exactly when they are
admissible. -/
theorem exists_foldlM_iff {l : List Placed} :
    (∃ d', l.foldlM addPlaced d = .ok d') ↔ d.Admits l := by
  constructor
  · rintro ⟨d', h⟩
    have hall := (extends_of_foldlM h).admits_append_iff.2 d'.admits_nil
    rwa [List.append_nil] at hall
  · intro h
    induction l generalizing d with
    | nil => exact ⟨d, rfl⟩
    | cons p l ih =>
      -- the first can be added, and the rest is admissible for what it leads to
      obtain ⟨d₁, hstep⟩ := (Admits.of_append (l := [p]) h).exists_addPlaced
      obtain ⟨d', hrest⟩ := ih ((extends_of_addPlaced hstep).admits_append_iff.1 h)
      exact ⟨d', by rw [List.foldlM_cons, hstep]; exact hrest⟩

end Draft

/-! ### Documents -/

/-- A schema document that has been read. -/
structure SchemaDocument where
  /-- The file that it comes from. -/
  file? : Option String
  /-- Its declarations, in order. -/
  declarations : List Declaration

/-- The declarations of a document in their file. -/
def SchemaDocument.placed (doc : SchemaDocument) : List Placed :=
  doc.declarations.map (Placed.mk doc.file?)

/-- All declarations of some documents, in order. -/
def placedIn (docs : List SchemaDocument) : List Placed := docs.flatMap SchemaDocument.placed

/-- Adds the declarations of some documents in order. -/
def Draft.loadDocuments (d : Draft) (docs : List SchemaDocument) : Except BuildError Draft :=
  docs.foldlM (fun d doc ↦ d.load doc.file? doc.declarations) d

/-- The schema of some documents. -/
def Schema.ofDocuments (docs : List SchemaDocument) : Except BuildError Schema := do
  (← Draft.empty.loadDocuments docs).build

/-- Where the documents are cut makes no difference. -/
theorem Draft.loadDocuments_eq_foldlM (d : Draft) (docs : List SchemaDocument) :
    d.loadDocuments docs = (placedIn docs).foldlM Draft.addPlaced d := by
  induction docs generalizing d with
  | nil => rfl
  | cons doc docs ih =>
    have hload (d : Draft) :
        doc.placed.foldlM Draft.addPlaced d = d.load doc.file? doc.declarations :=
      List.foldlM_map
    rw [placedIn, List.flatMap_cons, List.foldlM_append, hload, loadDocuments, List.foldlM_cons]
    exact bind_congr ih

/-- Loading documents leads from a draft that can be reached to another. -/
theorem Draft.Reachable.loadDocuments {d d' : Draft} {docs : List SchemaDocument}
    (hd : d.Reachable) (h : d.loadDocuments docs = .ok d') : d'.Reachable :=
  foldlM_keeps (fun hstep hr ↦ hr.load _ _ hstep) h hd

/-- A schema that documents lead to is built. -/
theorem Schema.built_of_ofDocuments {docs : List SchemaDocument} {s : Schema}
    (h : ofDocuments docs = .ok s) : s.Built := by
  obtain ⟨d, hd, hs⟩ := bind_eq_ok_iff.1 h
  exact ⟨d, Draft.Reachable.empty.loadDocuments hd, hs⟩

/-- A reachable draft is what some documents lead to. -/
theorem Draft.Reachable.exists_loadDocuments {d : Draft} (h : d.Reachable) :
    ∃ docs, Draft.empty.loadDocuments docs = .ok d := by
  induction h with
  | empty => exact ⟨[], rfl⟩
  | load file declarations _ hload ih =>
    obtain ⟨docs, hdocs⟩ := ih
    refine ⟨docs ++ [⟨file, declarations⟩], ?_⟩
    rw [Draft.loadDocuments] at hdocs ⊢
    rw [List.foldlM_append, bind_eq_ok_iff]
    refine ⟨_, hdocs, ?_⟩
    rw [List.foldlM_cons, hload]
    rfl

/-- Every built schema is that of some documents. -/
theorem Schema.Built.exists_ofDocuments {s : Schema} (h : s.Built) :
    ∃ docs, ofDocuments docs = .ok s := by
  obtain ⟨d, hd, hs⟩ := h
  obtain ⟨docs, hdocs⟩ := hd.exists_loadDocuments
  exact ⟨docs, bind_eq_ok_iff.2 ⟨d, hdocs, hs⟩⟩

/-- The text reads as the document. -/
structure SourceText.Reads (source : SourceText) (doc : SchemaDocument) : Prop where
  /-- They are in one file. -/
  file : source.file? = doc.file?
  /-- The declarations are those of the text. -/
  parse : Declaration.parse source.text = .ok doc.declarations

/-- Loading a text is loading the declarations that are read from it. -/
theorem SourceText.Reads.loadText {source : SourceText} {doc : SchemaDocument}
    (h : source.Reads doc) (d : Draft) :
    d.loadText source.file? source.text = d.load doc.file? doc.declarations := by
  rw [Draft.loadText, h.parse, h.file]

/-- Runs over lists that correspond are equal if their steps are. -/
theorem foldlM_eq_of_forall₂ {ε α β γ : Type} {R : α → β → Prop} {f : γ → α → Except ε γ}
    {g : γ → β → Except ε γ} (step : ∀ a b, R a b → ∀ c, f c a = g c b) {l : List α}
    {l' : List β} (h : List.Forall₂ R l l') (c : γ) : l.foldlM f c = l'.foldlM g c := by
  induction h generalizing c with
  | nil => rfl
  | cons hab _ ih =>
    rw [List.foldlM_cons, List.foldlM_cons, step _ _ hab]
    exact bind_congr ih

/-- The schema of some texts is that of the documents that they read as. -/
theorem Schema.ofTexts_eq_ofDocuments {sources : List SourceText} {docs : List SchemaDocument}
    (h : List.Forall₂ SourceText.Reads sources docs) : ofTexts sources = ofDocuments docs := by
  rw [ofTexts, ofDocuments, Draft.loadTexts, Draft.loadDocuments,
    foldlM_eq_of_forall₂ (fun _ _ hreads ↦ hreads.loadText) h]

/-- The schema of some files is that of the documents that their texts read as. -/
theorem Schema.ofFiles_eq_ofDocuments {disk : Disk} {paths : List String}
    {docs : List SchemaDocument}
    (h : List.Forall₂ (fun path doc ↦ ∃ text, disk.readText path = .ok text ∧
      SourceText.Reads ⟨some path, text⟩ doc) paths docs) :
    ofFiles disk paths = ofDocuments docs := by
  rw [ofFiles, ofDocuments, Draft.loadFiles, Draft.loadDocuments, foldlM_eq_of_forall₂ ?_ h]
  rintro path doc ⟨text, hread, hreads⟩ d
  rw [Draft.loadFile, hread]
  exact hreads.loadText d

end GraphQLCheck
