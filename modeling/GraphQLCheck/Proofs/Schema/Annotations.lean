import GraphQLCheck.Proofs.Schema.Faults
import GraphQLCheck.Proofs.Schema.Spelling
import GraphQLCheck.Proofs.TypeExpr.Reading
import Mathlib.Tactic.TFAE

/-!
# Annotations, their texts and their equivalence

An annotation stands for the type that it was made from: it is written like it, it is nullable where
the type has no mark, and it is equivalent to the annotation of another type if the types are equal,
wherever the two stand. So equivalence and equality of texts are the same thing
(`Annotation.equivalent_tfae`). Its text gives the type back if it is a text that the grammar reads:
the name in it has to be a GraphQL name, and there may not be more lists in one another than
brackets may be open (`annotations_not_read_back`).

Where a parameter is not of the type that an interface demands, the error shows the texts of the two
annotations. They are not equivalent, so the texts differ, and the error does show what is wrong
(`showsDifference_violations`).
-/

namespace GraphQLCheck

namespace Annotation

/-- Equality of types, equivalence of their annotations and equality of texts are one. -/
theorem equivalent_tfae {t u : TypeExpr} (ht : t.Proper) (hu : u.Proper) (l l' : Location) :
    [t = u, (ofTypeExpr l t).equivalent (ofTypeExpr l' u) = true,
      (ofTypeExpr l t).text = (ofTypeExpr l' u).text].TFAE := by
  have htext : (ofTypeExpr l t).text = (ofTypeExpr l' u).text ↔ t.text = u.text := by
    rw [← text_typeExpr, ← text_typeExpr, typeExpr_ofTypeExpr l ht, typeExpr_ofTypeExpr l' hu]
  tfae_have 1 ↔ 2 := by
    rw [equivalent_iff, typeExpr_ofTypeExpr l ht, typeExpr_ofTypeExpr l' hu]
  tfae_have 1 → 3 := fun h ↦ htext.2 (congrArg TypeExpr.text h)
  tfae_have 3 → 1 := fun h ↦ TypeExpr.text_injective ht hu (htext.1 h)
  tfae_finish

/-- Annotations are equivalent when their types are equal, so this is an equivalence. -/
theorem equivalence_equivalent : Equivalence fun a b : Annotation ↦ a.equivalent b = true := by
  simp only [equivalent_iff]
  exact ⟨fun a ↦ rfl, fun h ↦ h.symm, fun h h' ↦ h.trans h'⟩

/-- What the annotation of a type tells about it. -/
structure StandsFor (a : Annotation) (t : TypeExpr) : Prop where
  /-- The text is that of the type. -/
  text : a.text = t.text
  /-- Read as a type, the text gives the type again. This takes a type that can be written at all,
  with a GraphQL name inside, and a limit that lets its brackets be opened. -/
  read : ∀ limit, TypeExpr.readWithin? limit a.text = some t ↔ t.Written ∧ t.depth ≤ limit
  /-- The name inside is the one in the type. -/
  name : a.innermost.name = t.name
  /-- A level is nullable if the type has no mark there. -/
  levels : ∀ n, a.levels[n]? = (t.level? n).map fun u ↦ !u.isMarked

/-- The annotation that is made from a type stands for it. -/
theorem standsFor_ofTypeExpr {t : TypeExpr} (ht : t.Proper) (location : Location) :
    (ofTypeExpr location t).StandsFor t := by
  have htext : (ofTypeExpr location t).text = t.text := by
    rw [← text_typeExpr, typeExpr_ofTypeExpr location ht]
  refine ⟨htext, fun limit ↦ ?_, ?_, fun n ↦ ?_⟩
  · rw [htext]
    exact TypeExpr.readWithin?_text_eq_some_iff
  · rw [ofTypeExpr, innermost_ofMarked]
  · rw [ofTypeExpr, levels_ofMarked]
    simp only [Bool.or_true, Bool.true_and]

end Annotation

/-! ### Parameters of other types -/

/-- If two types are shown against each other, their texts differ. -/
def Violation.ShowsDifference : Violation → Prop
  | .parameterMismatch _ expected _ _ actual _ _ => expected ≠ actual
  | _ => True

section ShowsDifference

variable {types : Dict NamedType}

/-- The two types of a parameter are shown only if they are not equivalent. -/
theorem Field.showsDifference_parameterViolations {own : Field} {demanded : Parameter}
    (hown : own.Spelled) (hdemanded : demanded.Spelled) (type interface : String) :
    ∀ v ∈ own.parameterViolations type interface demanded, v.ShowsDifference := by
  rw [parameterViolations]
  split
  · simp [Violation.ShowsDifference]
  · rename_i p hp
    split
    · simp
    · rename_i hne
      have hspelled : p.Spelled := hown.parameters p (Dict.mem_values_of_get? hp)
      rw [List.forall_mem_singleton]
      show demanded.annotation.text ≠ p.annotation.text
      intro htext
      -- Equal texts would make the annotations equivalent.
      refine hne ?_
      rw [← Annotation.text_eq_iff hspelled.type hdemanded.type]
      exact htext.symm

/-- An error about a demanded field shows two texts that differ. -/
theorem NamedType.showsDifference_demandViolations {fields : Dict Field} {demanded : Field}
    (hfields : ∀ f ∈ fields.values, f.Spelled) (hdemanded : demanded.Spelled) (t : NamedType)
    (interface : String) :
    ∀ v ∈ t.demandViolations fields interface demanded, v.ShowsDifference := by
  rw [demandViolations]
  split
  · simp [Violation.ShowsDifference]
  · rename_i own hown
    rw [List.forall_mem_flatMap]
    intro p hp
    exact Field.showsDifference_parameterViolations (hfields own (Dict.mem_values_of_get? hown))
      (hdemanded.parameters p hp) t.name interface

/-- So does one about an interface that is implemented. -/
theorem NamedType.showsDifference_interfaceViolations (htypes : TypesSpelled types)
    {fields : Dict Field} (hfields : ∀ f ∈ fields.values, f.Spelled) (t : NamedType)
    (ref : TypeRef) : ∀ v ∈ t.interfaceViolations types fields ref, v.ShowsDifference := by
  rw [interfaceViolations]
  split
  · simp [Violation.ShowsDifference]
  · rename_i i hi
    split
    · rename_i demanded interfaces hshape
      have hdemanded : i.fields? = some demanded := by rw [fields?, hshape]
      rw [List.forall_mem_flatMap]
      intro f hf
      exact showsDifference_demandViolations hfields
        ((htypes i (Dict.mem_values_of_get? hi)).fields demanded hdemanded f hf) t ref.name
    · simp [Violation.ShowsDifference]

/-- The check of a parameter compares no types. -/
theorem Parameter.showsDifference_violations (p : Parameter) :
    ∀ v ∈ p.violations types, v.ShowsDifference := by
  rw [violations]
  split
  · simp [Violation.ShowsDifference]
  · split <;> simp [Violation.ShowsDifference]

/-- Neither does the check of a field. -/
theorem Field.showsDifference_violations (parent : String) (f : Field) :
    ∀ v ∈ f.violations types parent, v.ShowsDifference := by
  rw [violations, List.forall_mem_append, List.forall_mem_flatMap]
  refine ⟨?_, fun p _ ↦ p.showsDifference_violations⟩
  rw [outputViolations]
  split
  · simp [Violation.ShowsDifference]
  · split <;> simp [Violation.ShowsDifference]

/-- Neither does the check of a member of a union. -/
theorem NamedType.showsDifference_memberViolations (t : NamedType) (ref : TypeRef) :
    ∀ v ∈ t.memberViolations types ref, v.ShowsDifference := by
  rw [memberViolations]
  split
  · simp [Violation.ShowsDifference]
  · split <;> simp [Violation.ShowsDifference]

/-- Of what is wrong with a type, whatever compares two types shows texts that differ. -/
theorem NamedType.showsDifference_violations (htypes : TypesSpelled types) {t : NamedType}
    (ht : t.Spelled) : ∀ v ∈ t.violations types, v.ShowsDifference := by
  have hfields {fields : Dict Field} (interfaces : List TypeRef) (h : t.fields? = some fields) :
      ∀ v ∈ t.fieldsViolations types fields interfaces, v.ShowsDifference := by
    rw [fieldsViolations, List.forall_mem_append, List.forall_mem_flatMap, List.forall_mem_flatMap]
    exact ⟨fun f _ ↦ f.showsDifference_violations t.name,
      fun ref _ ↦ showsDifference_interfaceViolations htypes (ht.fields fields h) t ref⟩
  rw [violations]
  rcases hshape : t.shape with _ | _ | ⟨fields, interfaces⟩ | ⟨fields, interfaces⟩ | _ | members
  case interface | object => exact hfields interfaces (by rw [fields?, hshape])
  case union =>
    rw [List.forall_mem_flatMap]
    exact fun ref _ ↦ t.showsDifference_memberViolations ref
  all_goals exact List.forall_mem_nil _

/-- **Errors about parameters show what is wrong.** -/
theorem showsDifference_violations (htypes : TypesSpelled types) :
    ∀ v ∈ violations types, v.ShowsDifference := by
  rw [violations, List.forall_mem_flatMap]
  exact fun t ht ↦ NamedType.showsDifference_violations htypes (htypes t ht)

end ShowsDifference

/-- The errors that the types of a draft are refused with are what is wrong with them. -/
theorem Draft.eq_violations_of_build {d : Draft} {found : List Violation}
    (h : d.build = .error (.invalidTypes found)) : found = violations d.types := by
  by_cases hnil : violations d.types = []
  · exact absurd ((build_eq_error_iff_firstRootFault? hnil).1 h) (firstRootFault?_ne d found)
  · rw [build_of_violations hnil] at h
    exact (BuildError.invalidTypes.inj (Except.error.inj h)).symm

/-- **Annotations, texts and equivalence.** For written types and their annotations at any places,
equality of the types, equivalence of the annotations and equality of the texts are one. An
annotation stands for its type: the name and the nullable levels are those of the type, and so is
the text, which reads back as the type exactly when the grammar can write the type and its brackets
may be opened. Equivalence is an equivalence relation. Where the types of texts or files are
refused, an error about the type of a parameter shows two different texts. -/
theorem annotations_stand_for_types :
    (∀ t u : TypeExpr, t.Proper → u.Proper → ∀ l l' : Location,
      [t = u, (.ofTypeExpr l t : Annotation).equivalent (.ofTypeExpr l' u) = true,
        (.ofTypeExpr l t : Annotation).text = (.ofTypeExpr l' u : Annotation).text].TFAE) ∧
    (∀ t : TypeExpr, t.Proper → ∀ l : Location, (.ofTypeExpr l t : Annotation).StandsFor t) ∧
    (∀ text, TypeExpr.readWithin? nestingLimit text = TypeExpr.read? nestingLimit text) ∧
    Equivalence (fun a b : Annotation ↦ a.equivalent b = true) ∧
    (∀ d found, TypesSpelled d.types → Draft.build d = .error (.invalidTypes found) →
      ∀ v ∈ found, v.ShowsDifference) ∧
    (∀ sources d, Draft.empty.loadTexts sources = .ok d → TypesSpelled d.types) ∧
    ∀ disk paths d, Draft.empty.loadFiles disk paths = .ok d → TypesSpelled d.types := by
  refine ⟨fun t u ht hu l l' ↦ Annotation.equivalent_tfae ht hu l l',
    fun t ht l ↦ Annotation.standsFor_ofTypeExpr ht l, TypeExpr.readWithin?_nestingLimit,
    Annotation.equivalence_equivalent, ?_, fun _ _ ↦ Draft.typesSpelled_of_loadTexts,
    fun _ _ _ ↦ Draft.typesSpelled_of_loadFiles⟩
  intro d found htypes hbuild v hv
  rw [Draft.eq_violations_of_build hbuild] at hv
  exact showsDifference_violations htypes v hv

/-- An interface that demands `ID!` of a parameter is shown against the `ID` that a type has. The
annotation of `[ID!]` is written so and read back as this type. -/
theorem annotations_brokenDeclarations : ∃ d found,
    Draft.empty.load none brokenDeclarations = .ok d ∧ TypesSpelled d.types ∧
    d.build = .error (.invalidTypes found) ∧ (∀ v ∈ found, v.ShowsDifference) ∧
    (∃ location, .parameterMismatch location "ID!" "id" "Node" "ID" "key" "Query" ∈ found) ∧
    ∀ l l' : Location,
      (.ofTypeExpr l (.nonNull (.named "ID")) : Annotation).equivalent
        (.ofTypeExpr l' (.named "ID")) = false ∧
      (.ofTypeExpr l (.list (.nonNull (.named "ID"))) : Annotation).text = "[ID!]" ∧
      TypeExpr.read? nestingLimit "[ID!]" = some (.list (.nonNull (.named "ID"))) ∧
      (.ofTypeExpr l (.list (.nonNull (.named "ID"))) : Annotation).levels[0]? = some true ∧
      (.ofTypeExpr l (.list (.nonNull (.named "ID"))) : Annotation).levels[1]? = some false := by
  have h : ∃ d found, Draft.empty.loadDocuments [⟨none, brokenDeclarations⟩] = .ok d ∧
      Draft.empty.load none brokenDeclarations = .ok d ∧
      d.build = .error (.invalidTypes found) ∧
      .parameterMismatch (.written none ⟨4, 7⟩) "ID!" "id" "Node" "ID" "key" "Query" ∈ found :=
    ⟨_, _, rfl, rfl, rfl, by decide +kernel⟩
  obtain ⟨d, found, hdocuments, hd, hbuild, hmem⟩ := h
  have hspelled : TypesSpelled d.types :=
    Draft.typesSpelled_of_loadDocuments (by decide +kernel) hdocuments
  obtain ⟨htfae, hstands, hreads, -, hshows, -⟩ := annotations_stand_for_types
  refine ⟨d, found, hd, hspelled, hbuild, hshows d found hspelled hbuild, ⟨_, hmem⟩, ?_⟩
  intro l l'
  have hne : (.nonNull (.named "ID") : TypeExpr) ≠ .named "ID" := by decide
  have hiff := (htfae (.nonNull (.named "ID")) (.named "ID") (by decide) (by decide) l l').out 0 1
  have hlist := hstands (.list (.nonNull (.named "ID"))) (by decide) l
  have hwritten : (.list (.nonNull (.named "ID")) : TypeExpr).Written :=
    ⟨rfl, show isName "ID" = true by decide⟩
  have hread := (hlist.read nestingLimit).2 ⟨hwritten, by decide⟩
  rw [hlist.text, hreads] at hread
  exact ⟨Bool.eq_false_iff.2 fun hequivalent ↦ hne (hiff.2 hequivalent), hlist.text, hread,
    hlist.levels 0, hlist.levels 1⟩

/-- Integers in one list more than there may be open brackets in a text. -/
def deepList : TypeExpr := Nat.repeat .list 51 (.named "Int")

/-- A name that begins with a digit and a list that lies too deep are not read back. -/
theorem annotations_not_read_back :
    (.named "9" : TypeExpr).Proper ∧ deepList.Proper ∧
    TypeExpr.read? nestingLimit (.ofTypeExpr .builtIn (.named "9") : Annotation).text ≠
      some (.named "9") ∧
    TypeExpr.read? nestingLimit (.ofTypeExpr .builtIn deepList : Annotation).text ≠
      some deepList := by
  have hread {t : TypeExpr} (ht : t.Proper) :
      TypeExpr.read? nestingLimit (.ofTypeExpr .builtIn t : Annotation).text = some t ↔
        t.Written ∧ t.depth ≤ nestingLimit := by
    have hstands := Annotation.standsFor_ofTypeExpr ht .builtIn
    rw [← TypeExpr.readWithin?_nestingLimit]
    exact hstands.read nestingLimit
  have hnine : (.named "9" : TypeExpr).Proper := by decide
  have hdeep : deepList.Proper := by decide
  refine ⟨hnine, hdeep, mt (hread hnine).1 fun h ↦ ?_, mt (hread hdeep).1 fun h ↦ ?_⟩
  · have hname : isName "9" = true := h.1
    exact absurd hname (by decide)
  · exact absurd h.2 (by decide)

end GraphQLCheck
