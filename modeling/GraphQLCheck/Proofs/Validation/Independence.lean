import GraphQLCheck.Proofs.Validation.FieldSites
import GraphQLCheck.Proofs.Validation.Protocol

/-!
# Rules do not influence each other

All rules add to the same diagnostics, and each is shown what has been added before it. To say which
of them a diagnostic comes from, a walk is followed by a `journal`: for every visit the diagnostics
that are added there, each with the place of the rule that reports it. Without the places it is what
validation reports (`map_diagnostic_journal`), for all rules.

If no rule looks at what has been reported, the journal has at every visit what the rules report
there for themselves, one rule after the other (`journal_eq_map`). So what a rule adds is what it
reports when it is the only one, and in another order of the rules the journal has the same entries
at every visit in another order (`journal_independent`). That a rule does not look is needed: the
rule `trace` shows the number of diagnostics before it.
-/

namespace GraphQLCheck

/-- A diagnostic, and the place of the rule that reports it among `n` rules. -/
structure Entry (n : Nat) where
  /-- The place of the rule. -/
  index : Fin n
  /-- What it reports. -/
  diagnostic : Diagnostic

/-- The entry with the place of its rule changed. -/
def Entry.relabel {n : Nat} (σ : Fin n → Fin n) (entry : Entry n) : Entry n :=
  ⟨σ entry.index, entry.diagnostic⟩

section Journal

variable {n : Nat} (rules : Fin n → Rule) (s : Schema) (fragments : Fragments)

/-- What a call adds to what has been reported. -/
def Call.entries (reported : Array Diagnostic) (call : Call n) : List (Entry n) :=
  ((rules call.index).report call.event ⟨s, fragments, call.tracker, reported⟩).map
    (Entry.mk call.index)

/-- What some calls add one after the other, each shown what those before it have added. -/
def entriesOf : Array Diagnostic → List (Call n) → List (Entry n)
  | _, [] => []
  | reported, call :: calls =>
    call.entries rules s fragments reported ++
      entriesOf (call.answer rules s fragments reported) calls

/-- What is added at some visits, visit by visit. -/
def journal : Array Diagnostic → List Visit → List (List (Entry n))
  | _, [] => []
  | reported, visit :: visits =>
    entriesOf rules s fragments reported (visit.calls n) ::
      journal (visit.hear (List.ofFn rules) s fragments reported) visits

/-- The journal of a document, before which nothing has been reported. -/
def Document.journal (document : Document) : List (List (Entry n)) :=
  GraphQLCheck.journal rules s fragments #[] (document.visits s fragments)

/-! ### The journal and what is reported -/

theorem toList_foldl_answer (reported : Array Diagnostic) (calls : List (Call n)) :
    (calls.foldl (Call.answer rules s fragments) reported).toList =
      reported.toList ++ (entriesOf rules s fragments reported calls).map Entry.diagnostic := by
  induction calls generalizing reported with
  | nil => exact (List.append_nil _).symm
  | cons call calls ih =>
    have hentries : (call.entries rules s fragments reported).map Entry.diagnostic =
        (rules call.index).report call.event ⟨s, fragments, call.tracker, reported⟩ := by
      rw [Call.entries, List.map_map]
      exact List.map_id _
    rw [List.foldl_cons, ih, entriesOf, List.map_append, hentries, ← List.append_assoc]
    exact congrArg (· ++ _) (Array.toList_appendList ..)

theorem toList_foldl_hear_ofFn (reported : Array Diagnostic) (visits : List Visit) :
    (visits.foldl (Visit.hear (List.ofFn rules) s fragments) reported).toList =
      reported.toList ++
        (journal rules s fragments reported visits).flatten.map Entry.diagnostic := by
  induction visits generalizing reported with
  | nil => exact (List.append_nil _).symm
  | cons visit visits ih =>
    rw [List.foldl_cons, ih, journal, List.flatten_cons, List.map_append, ← List.append_assoc,
      Visit.hear_ofFn, toList_foldl_answer]

/-- Without the places of the rules, the journal is what validation reports. -/
theorem map_diagnostic_journal (document : Document) :
    (document.journal rules s fragments).flatten.map Entry.diagnostic =
      validateWith (List.ofFn rules) s fragments document := by
  rw [validateWith_eq_foldl, toList_foldl_hear_ofFn, List.nil_append]
  rfl

end Journal

/-! ### Rules that do not look at what has been reported -/

section Unswayed

variable {n : Nat} {rules : Fin n → Rule} {s : Schema} {fragments : Fragments}

/-- What the rules report at a visit when nothing has been reported before, rule after rule. -/
def Visit.entries (rules : Fin n → Rule) (s : Schema) (fragments : Fragments) (visit : Visit) :
    List (Entry n) :=
  (List.finRange n).flatMap fun i ↦ (visit.reportOf s fragments (rules i)).map (Entry.mk i)

theorem entriesOf_eq_flatMap (h : ∀ i, (rules i).Unswayed) (reported : Array Diagnostic)
    (calls : List (Call n)) : entriesOf rules s fragments reported calls =
      calls.flatMap (Call.entries rules s fragments #[]) := by
  induction calls generalizing reported with
  | nil => rfl
  | cons call calls ih =>
    have hcall : call.entries rules s fragments reported = call.entries rules s fragments #[] := by
      rw [Call.entries, Call.entries]
      exact congrArg _ (h call.index call.event ⟨s, fragments, call.tracker, #[]⟩ reported)
    rw [entriesOf, ih, hcall, List.flatMap_cons]

/-- At every visit the journal has what the rules report there for themselves, whatever has been
reported before. -/
theorem journal_eq_map (h : ∀ i, (rules i).Unswayed) (reported : Array Diagnostic)
    (visits : List Visit) :
    journal rules s fragments reported visits = visits.map (Visit.entries rules s fragments) := by
  induction visits generalizing reported with
  | nil => rfl
  | cons visit visits ih =>
    have hvisit : entriesOf rules s fragments reported (visit.calls n) =
        visit.entries rules s fragments := by
      rw [entriesOf_eq_flatMap h, Visit.calls, List.flatMap_map]
      rfl
    rw [journal, ih, hvisit, List.map_cons]

theorem map_diagnostic_filter_mk (i j : Fin n) (found : List Diagnostic) :
    ((found.map (Entry.mk j)).filter (·.index = i)).map Entry.diagnostic =
      if j = i then found else [] := by
  by_cases h : j = i <;> simp [List.filter_map, Function.comp_def, h]

/-- The entries of a rule at a visit are what it reports there. -/
theorem Visit.filter_entries (i : Fin n) (visit : Visit) :
    ((visit.entries rules s fragments).filter (·.index = i)).map Entry.diagnostic =
      visit.reportOf s fragments (rules i) := by
  rw [entries, List.filter_flatMap, List.map_flatMap]
  simp only [map_diagnostic_filter_mk]
  -- what the rules before and after the place `i` add is left out
  obtain ⟨before, after, hsplit⟩ := List.append_of_mem (List.mem_finRange i)
  have hnodup := List.nodup_finRange n
  rw [hsplit, List.nodup_middle, List.nodup_cons, List.mem_append, not_or] at hnodup
  obtain ⟨⟨hbefore, hafter⟩, -⟩ := hnodup
  have hother : ∀ places : List (Fin n), i ∉ places →
      (places.flatMap fun j ↦ if j = i then visit.reportOf s fragments (rules j) else []) = [] := by
    intro places hplaces
    refine List.flatMap_eq_nil_iff.2 fun j hj ↦ if_neg ?_
    rintro rfl
    exact hplaces hj
  rw [hsplit, List.flatMap_append, List.flatMap_cons, hother before hbefore, hother after hafter,
    if_pos rfl, List.nil_append, List.append_nil]

/-- Other places of the rules give the same entries at a visit in another order. -/
theorem Visit.perm_entries (σ : Equiv.Perm (Fin n)) (visit : Visit) :
    (visit.entries rules s fragments).Perm
      ((visit.entries (rules ∘ σ) s fragments).map (Entry.relabel σ)) := by
  have hmoved : (visit.entries (rules ∘ σ) s fragments).map (Entry.relabel σ) =
      ((List.finRange n).map σ).flatMap fun i ↦
        (visit.reportOf s fragments (rules i)).map (Entry.mk i) := by
    rw [entries, List.map_flatMap, List.flatMap_map]
    simp only [List.map_map]
    rfl
  rw [hmoved, entries]
  exact σ.map_finRange_perm.symm.flatMap_right _

end Unswayed

/-- **Rules do not influence each other.** If none of the rules looks at what has been reported, the
journal, which without the places of the rules is what validation reports, has for every rule what
validation with that rule alone reports. With the rules in another order, the journal of the same
document has the same entries at every visit, in some order. -/
theorem journal_independent {n : Nat} {rules : Fin n → Rule} (h : ∀ i, (rules i).Unswayed)
    (s : Schema) (fragments : Fragments) (document : Document) :
    (document.journal rules s fragments).flatten.map Entry.diagnostic =
      validateWith (List.ofFn rules) s fragments document ∧
    (∀ i, ((document.journal rules s fragments).flatten.filter (·.index = i)).map
      Entry.diagnostic = validateWith [rules i] s fragments document) ∧
    ∀ σ : Equiv.Perm (Fin n),
      (document.journal (rules ∘ σ) s fragments).flatten.map Entry.diagnostic =
        validateWith (List.ofFn (rules ∘ σ)) s fragments document ∧
      List.Forall₂ List.Perm (document.journal rules s fragments)
        ((document.journal (rules ∘ σ) s fragments).map (List.map (Entry.relabel σ))) := by
  have hjournal : document.journal rules s fragments =
      (document.visits s fragments).map (Visit.entries rules s fragments) :=
    journal_eq_map h #[] _
  refine ⟨map_diagnostic_journal rules s fragments document, fun i ↦ ?_, fun σ ↦
    ⟨map_diagnostic_journal (rules ∘ σ) s fragments document, ?_⟩⟩
  · have halone : ∀ rule ∈ [rules i], rule.Unswayed := by
      intro rule hrule
      rw [List.mem_singleton.1 hrule]
      exact h i
    rw [validateWith_eq_flatMap halone, hjournal, ← List.flatMap_def, List.filter_flatMap,
      List.map_flatMap]
    refine List.flatMap_congr fun visit _ ↦ ?_
    rw [Visit.filter_entries, List.flatMap_singleton]
  · have hmoved : document.journal (rules ∘ σ) s fragments =
        (document.visits s fragments).map (Visit.entries (rules ∘ σ) s fragments) :=
      journal_eq_map (fun i ↦ h (σ i)) #[] _
    rw [hjournal, hmoved, List.map_map, List.forall₂_map_left_iff, List.forall₂_map_right_iff,
      List.forall₂_same]
    exact fun visit _ ↦ visit.perm_entries σ

/-- A rule that reports every field with more types around it than the limit. -/
def depthLimit (limit : Nat) : Rule where
  name := "DepthLimit"
  report event scene :=
    match event.phase, event.node with
    | .enter, .field head _ _ =>
      if limit < scene.tracker.depth then [⟨"Selected too deep.", [head.position]⟩] else []
    | _, _ => []

/-- The rule about fields, and a limit. -/
def fieldsAndDepth : Fin 2 → Rule
  | 0 => fieldSelection
  | 1 => depthLimit 2

/-- A wrong field, one that is wrong and too deep, a wrong one, and one that is too deep. -/
theorem journal_nodeDocument : ∃ s : Schema, s.Built ∧ (∀ i, (fieldsAndDepth i).Unswayed) ∧
    (((nodeDocument.journal fieldsAndDepth s .empty).map (List.map Entry.index)).filter (· ≠ [])) =
      [[0], [0, 1], [0], [1]] ∧
    (((nodeDocument.journal fieldsAndDepth s .empty).flatten.filter (·.index = 1)).map
      Entry.diagnostic = validateWith [depthLimit 2] s .empty nodeDocument) ∧
    List.Forall₂ List.Perm (nodeDocument.journal fieldsAndDepth s .empty)
      ((nodeDocument.journal (fieldsAndDepth ∘ Equiv.swap 0 1) s .empty).map
        (List.map (Entry.relabel (Equiv.swap 0 1)))) := by
  have h : ∃ s : Schema, ∃ d : Draft, Draft.empty.load none nodeDeclarations = .ok d ∧
      d.build = .ok s ∧
      (((nodeDocument.journal fieldsAndDepth s .empty).map (List.map Entry.index)).filter
        (· ≠ [])) = [[0], [0, 1], [0], [1]] := ⟨_, _, rfl, rfl, by decide +kernel⟩
  obtain ⟨s, d, hd, hs, hindices⟩ := h
  have hbuilt : s.Built := ⟨d, .load none nodeDeclarations .empty hd, hs⟩
  have hunswayed : ∀ i, (fieldsAndDepth i).Unswayed := by
    intro i
    match i with
    | 0 => exact fieldSelection_unswayed
    | 1 => exact fun _ _ _ ↦ rfl
  obtain ⟨-, halone, hmoved⟩ := journal_independent hunswayed s .empty nodeDocument
  exact ⟨s, hbuilt, hunswayed, hindices, halone 1, (hmoved (Equiv.swap 0 1)).2⟩

end GraphQLCheck
