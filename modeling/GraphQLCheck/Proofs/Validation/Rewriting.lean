import GraphQLCheck.Proofs.Validation.FieldSites

/-!
# Rewriting a document

Three changes to a document make no difference to validation with the default rules. An inline
fragment without a condition can be replaced by what is inside of it, a spread can be left out, and
the definitions can be validated one by one.

The first two are one function, `Document.rewrite`. Which selections are rewritten is said by their
**addresses**: a selection is reached from the document by counting, first the definitions and then
the selections on the way down, so any set of them can be chosen, at any depth. Rewriting may leave
nothing below a field, which the walk then treats as a field without selections.

Rewriting changes neither which fields there are nor the types around them, as an inline fragment
without a condition hands on the type around it and a spread has no fields. So the sites of the
document are the same (`Document.sites_rewrite`), and these are all that is reported about. They
come definition by definition, and that is the third change (`validate_eq_flatMap_definitions`).
-/

namespace GraphQLCheck

/-- Where a selection stands: the place of its definition in the document, and the places of the
selections that it is in, from the outermost one down to itself. -/
abbrev Address := List Nat

section Rewrite

variable (splice drop : Address → Bool)

mutual

/-- What a selection at an address is rewritten to. An inline fragment without a condition that is
to be spliced gives way to its selections, and a spread that is to be dropped to nothing. -/
def Selection.rewrite (address : Address) : Selection → List Selection
  | .field head span selections => [.field head span (rewriteAll address 0 selections)]
  | .inline head span selections =>
    if head.condition?.isNone && splice address then rewriteAll address 0 selections
    else [.inline head span (rewriteAll address 0 selections)]
  | .spread spread => if drop address then [] else [.spread spread]

/-- What selections are rewritten to, where the first of them has the given place. -/
def rewriteAll (address : Address) (place : Nat) : List Selection → List Selection
  | [] => []
  | selection :: selections =>
    selection.rewrite (address ++ [place]) ++ rewriteAll address (place + 1) selections

end

/-- The definition at a place with its selections rewritten. -/
def Definition.rewrite (place : Nat) : Definition → Definition
  | .operation op =>
    .operation { op with selections := rewriteAll splice drop [place] 0 op.selections }
  | .fragment f => .fragment { f with selections := rewriteAll splice drop [place] 0 f.selections }

/-- The document with the inline fragments at some addresses spliced, unless they have a condition,
and the spreads at some addresses dropped. -/
def Document.rewrite (document : Document) : Document :=
  ⟨document.definitions.mapIdx (Definition.rewrite splice drop)⟩

end Rewrite

/-! ### The sites of a rewritten document -/

section Sites

variable (s : Schema) (splice drop : Address → Bool)

theorem sitesOfAll_append (context : Context) (selections selections' : List Selection) :
    sitesOfAll s context (selections ++ selections') =
      sitesOfAll s context selections ++ sitesOfAll s context selections' := by
  induction selections with
  | nil => rw [sitesOfAll, List.nil_append, List.nil_append]
  | cons selection selections ih =>
    rw [List.cons_append, sitesOfAll, sitesOfAll, ih, List.append_assoc]

theorem sitesOfAll_singleton (context : Context) (selection : Selection) :
    sitesOfAll s context [selection] = selection.sites s context := by
  rw [sitesOfAll, sitesOfAll, List.append_nil]

mutual

/-- **One selection.** What it is rewritten to has its sites. By recursion on the tree; the address
changes on the way and does not matter. -/
theorem sitesOfAll_rewrite : ∀ (context : Context) (address : Address) (selection : Selection),
    sitesOfAll s context (selection.rewrite splice drop address) = selection.sites s context
  | context, address, .field head span selections => by
    rw [Selection.rewrite, sitesOfAll_singleton, Selection.sites, Selection.sites,
      sitesOfAll_rewriteAll]
  | context, address, .inline head span selections => by
    rw [Selection.rewrite]
    split
    · rename_i hspliced
      have hcondition : head.condition? = none := by
        rw [Bool.and_eq_true, Option.isNone_iff_eq_none] at hspliced
        exact hspliced.1
      rw [sitesOfAll_rewriteAll, Selection.sites, hcondition]
    · rw [sitesOfAll_singleton, Selection.sites, Selection.sites]
      cases head.condition? <;> exact sitesOfAll_rewriteAll _ address 0 selections
  | context, address, .spread spread => by
    rw [Selection.rewrite]
    split
    · rw [sitesOfAll, Selection.sites]
    · exact sitesOfAll_singleton s context (.spread spread)

/-- **All selections** of a list, one after the other. -/
theorem sitesOfAll_rewriteAll :
    ∀ (context : Context) (address : Address) (place : Nat) (selections : List Selection),
      sitesOfAll s context (rewriteAll splice drop address place selections) =
        sitesOfAll s context selections
  | context, address, place, [] => by rw [rewriteAll]
  | context, address, place, selection :: selections => by
    rw [rewriteAll, sitesOfAll_append, sitesOfAll_rewrite, sitesOfAll_rewriteAll, sitesOfAll]

end

theorem Definition.sites_rewrite (place : Nat) (definition : Definition) :
    (definition.rewrite splice drop place).sites s = definition.sites s := by
  cases definition with
  | operation op => exact sitesOfAll_rewriteAll s splice drop _ [place] 0 op.selections
  | fragment f => exact sitesOfAll_rewriteAll s splice drop _ [place] 0 f.selections

/-- A rewritten document has the same fields, each selected from the same type, in the same order.
-/
theorem Document.sites_rewrite (document : Document) :
    (document.rewrite splice drop).sites s = document.sites s := by
  rw [Document.sites, Document.sites, Document.rewrite, List.mapIdx_eq_zipIdx_map, List.flatMap_map]
  calc document.definitions.zipIdx.flatMap
        (fun p ↦ (p.1.rewrite splice drop p.2).sites s)
      = document.definitions.zipIdx.flatMap (fun p ↦ p.1.sites s) :=
        List.flatMap_congr fun p _ ↦ p.1.sites_rewrite s splice drop p.2
    _ = (document.definitions.zipIdx.map Prod.fst).flatMap (Definition.sites s) :=
        (List.flatMap_map ..).symm
    _ = document.definitions.flatMap (Definition.sites s) := by rw [List.zipIdx_map_fst]

end Sites

/-! ### Validation of rewritten documents -/

/-- What is reported about a document is what is reported about each of its definitions alone. -/
theorem validate_eq_flatMap_definitions {s : Schema} (h : s.Built) (document : Document) :
    validate defaultRules s document =
      document.definitions.flatMap fun definition ↦ validate defaultRules s ⟨[definition]⟩ := by
  have hblock (definition : Definition) : validate defaultRules s ⟨[definition]⟩ =
      (definition.sites s).filterMap (FieldSite.diagnostic? s) := by
    rw [validate, validateWith_defaultRules h, Document.sites, List.flatMap_singleton]
  rw [validate, validateWith_defaultRules h, Document.sites, List.filterMap_flatMap]
  exact List.flatMap_congr fun definition _ ↦ (hblock definition).symm

/-- **Rewriting keeps the diagnostics.** For a built schema and the default rules: splicing any
inline fragments without a condition and dropping any spreads, or only one of the two, changes
nothing; and a document is validated definition by definition, so that definitions in another order
give the same blocks of diagnostics in that order. -/
theorem validate_of_rewrite {s : Schema} (h : s.Built) (document : Document) :
    let block (definition : Definition) := validate defaultRules s ⟨[definition]⟩
    (∀ splice drop : Address → Bool, validate defaultRules s (document.rewrite splice drop) =
      validate defaultRules s document) ∧
    validate defaultRules s document = (document.definitions.map block).flatten ∧
    ∀ definitions, document.definitions.Perm definitions →
      (document.definitions.map block).Perm (definitions.map block) ∧
      validate defaultRules s ⟨definitions⟩ = (definitions.map block).flatten := by
  intro block
  have hblocks (definitions : List Definition) :
      validate defaultRules s ⟨definitions⟩ = (definitions.map block).flatten := by
    rw [validate_eq_flatMap_definitions h, List.flatMap_def]
  refine ⟨fun splice drop ↦ ?_, hblocks document.definitions, fun definitions hperm ↦ ?_⟩
  · rw [validate, validate, validateWith_defaultRules h, validateWith_defaultRules h,
      Document.sites_rewrite]
  · exact ⟨hperm.map block, hblocks definitions⟩

/-- A query with a spread inside of an inline fragment, below a field that has nothing else, and a
wrong field inside of an inline fragment; and a fragment with a wrong field. -/
def wrappedDocument : Document :=
  ⟨[.operation ⟨none, ⟨⟨1, 1⟩, ⟨4, 1⟩⟩,
      [.field ⟨⟨2, 3⟩, none, "node", [], []⟩ ⟨⟨2, 8⟩, ⟨2, 24⟩⟩
        [.inline ⟨⟨2, 14⟩, none, []⟩ ⟨⟨2, 14⟩, ⟨2, 22⟩⟩ [.spread ⟨⟨2, 19⟩, "F", []⟩]],
        .inline ⟨⟨3, 7⟩, none, []⟩ ⟨⟨3, 7⟩, ⟨3, 14⟩⟩
          [.field ⟨⟨3, 9⟩, none, "nobody", [], []⟩ default []]]⟩,
    .fragment ⟨⟨5, 1⟩, "F", "User", [], ⟨⟨5, 20⟩, ⟨5, 27⟩⟩,
      [.field ⟨⟨5, 22⟩, none, "nmae", [], []⟩ default []]⟩]⟩

/-- The same with the spread dropped and both inline fragments spliced. -/
def unwrappedDocument : Document :=
  ⟨[.operation ⟨none, ⟨⟨1, 1⟩, ⟨4, 1⟩⟩,
      [.field ⟨⟨2, 3⟩, none, "node", [], []⟩ ⟨⟨2, 8⟩, ⟨2, 24⟩⟩ [],
        .field ⟨⟨3, 9⟩, none, "nobody", [], []⟩ default []]⟩,
    .fragment ⟨⟨5, 1⟩, "F", "User", [], ⟨⟨5, 20⟩, ⟨5, 27⟩⟩,
      [.field ⟨⟨5, 22⟩, none, "nmae", [], []⟩ default []]⟩]⟩

theorem validate_unwrappedDocument : ∃ s : Schema, s.Built ∧
    wrappedDocument.rewrite (· ∈ [[0, 0, 0], [0, 1]]) (· == [0, 0, 0, 0]) = unwrappedDocument ∧
    validate defaultRules s unwrappedDocument = validate defaultRules s wrappedDocument ∧
    (validate defaultRules s wrappedDocument).map Diagnostic.positions = [[⟨3, 9⟩], [⟨5, 22⟩]] ∧
    (validate defaultRules s ⟨wrappedDocument.definitions.reverse⟩).map Diagnostic.positions =
      [[⟨5, 22⟩], [⟨3, 9⟩]] := by
  have h : ∃ d s, Draft.empty.load none nodeDeclarations = .ok d ∧ d.build = .ok s ∧
      (validate defaultRules s wrappedDocument).map Diagnostic.positions = [[⟨3, 9⟩], [⟨5, 22⟩]] ∧
      (validate defaultRules s ⟨wrappedDocument.definitions.reverse⟩).map Diagnostic.positions =
        [[⟨5, 22⟩], [⟨3, 9⟩]] :=
    ⟨_, _, rfl, rfl, by decide +kernel⟩
  obtain ⟨d, s, hd, hs, hpositions, hreversed⟩ := h
  have hbuilt : s.Built := ⟨d, .load none nodeDeclarations .empty hd, hs⟩
  have hrewrite : wrappedDocument.rewrite (· ∈ [[0, 0, 0], [0, 1]]) (· == [0, 0, 0, 0]) =
      unwrappedDocument := by rfl
  have hvalidate := (validate_of_rewrite hbuilt wrappedDocument).1 (· ∈ [[0, 0, 0], [0, 1]])
    (· == [0, 0, 0, 0])
  rw [hrewrite] at hvalidate
  exact ⟨s, hbuilt, hrewrite, hvalidate, hpositions, hreversed⟩

end GraphQLCheck
