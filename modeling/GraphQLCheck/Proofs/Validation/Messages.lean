import GraphQLCheck.Proofs.Schema.Spelling
import GraphQLCheck.Proofs.Validation.Repairs

/-!
# What a message tells

A message about a field names the field, the type and the suggestions in double quotes, with fixed
words between them. Names hold no double quote, so the quotes of the message show where each of them
begins and ends: a text that is put together from words and quoted names in turn (`wording`) has the
same words and names in whatever way it is put together (`wording_inj`). The words before the first
suggestion tell which error it is. If there is none, it is an unknown field, because types are
suggested only where there are any.
-/

namespace GraphQLCheck

/-! ### Words and quoted names -/

/-- No double quote occurs in the text. -/
def Unquoted (text : String) : Prop := '"' ∉ text.toList

instance (text : String) : Decidable (Unquoted text) :=
  inferInstanceAs (Decidable ('"' ∉ text.toList))

/-- A name has no double quote. -/
theorem NameLike.unquoted {text : String} (h : NameLike text) : Unquoted text :=
  h.not_mem (by decide)

/-- A text from pairs of words and a name in quotes, and the words at its end. -/
def wording : List (String × String) → String → String
  | [], ending => ending
  | (words, name) :: parts, ending => words ++ quoted name ++ wording parts ending

theorem wording_cons (words name : String) (parts : List (String × String)) (ending : String) :
    wording ((words, name) :: parts) ending = words ++ quoted name ++ wording parts ending := rfl

/-- The characters of a text that begins with words and a name in quotes. -/
theorem toList_wording_cons (words name : String) (parts : List (String × String))
    (ending : String) : (wording ((words, name) :: parts) ending).toList =
      words.toList ++ '"' :: (name.toList ++ '"' :: (wording parts ending).toList) := by
  simp [wording_cons, quoted]

/-- The first quote of a text is where it is. -/
theorem append_quote_inj {a b x y : List Char} (ha : '"' ∉ a) (hb : '"' ∉ b)
    (h : a ++ '"' :: x = b ++ '"' :: y) : a = b ∧ x = y := by
  induction a generalizing b with
  | nil =>
    cases b with
    | nil => exact ⟨rfl, (List.cons.inj h).2⟩
    | cons d b =>
      obtain rfl : '"' = d := (List.cons.inj h).1
      exact absurd List.mem_cons_self hb
  | cons c a ih =>
    cases b with
    | nil =>
      obtain rfl : c = '"' := (List.cons.inj h).1
      exact absurd List.mem_cons_self ha
    | cons d b =>
      obtain ⟨rfl, htail⟩ := List.cons.inj h
      obtain ⟨rfl, rfl⟩ := ih (List.not_mem_of_not_mem_cons ha) (List.not_mem_of_not_mem_cons hb)
        htail
      exact ⟨rfl, rfl⟩

/-- The words and the names are without quotes of their own. -/
def AllUnquoted (parts : List (String × String)) : Prop :=
  ∀ p ∈ parts, Unquoted p.1 ∧ Unquoted p.2

/-- **The quotes of a text tell its parts.** -/
theorem wording_inj {parts parts' : List (String × String)} {ending ending' : String}
    (hparts : AllUnquoted parts) (hparts' : AllUnquoted parts') (hending : Unquoted ending)
    (hending' : Unquoted ending') (h : wording parts ending = wording parts' ending') :
    parts = parts' ∧ ending = ending' := by
  have hquote (p : String × String) (parts : List (String × String)) (ending : String) :
      ¬ Unquoted (wording (p :: parts) ending) := by
    rw [Unquoted, toList_wording_cons, not_not]
    exact List.mem_append_right _ List.mem_cons_self
  -- A text with a part has a quote; the first two quotes show the first part.
  induction parts generalizing parts' with
  | nil =>
    cases parts' with
    | nil => exact ⟨rfl, h⟩
    | cons p' parts' =>
      refine absurd ?_ (hquote p' parts' ending')
      rwa [← h]
  | cons p parts ih =>
    cases parts' with
    | nil =>
      refine absurd ?_ (hquote p parts ending)
      rwa [h]
    | cons p' parts' =>
      obtain ⟨⟨hwords, hname⟩, hparts⟩ := List.forall_mem_cons.1 hparts
      obtain ⟨⟨hwords', hname'⟩, hparts'⟩ := List.forall_mem_cons.1 hparts'
      replace h := congrArg String.toList h
      rw [toList_wording_cons, toList_wording_cons] at h
      obtain ⟨hw, h⟩ := append_quote_inj hwords hwords' h
      obtain ⟨hn, h⟩ := append_quote_inj hname hname' h
      obtain ⟨rfl, rfl⟩ := ih hparts hparts' (String.toList_inj.1 h)
      exact ⟨by rw [Prod.ext (String.toList_inj.1 hw) (String.toList_inj.1 hn)], rfl⟩

/-! ### Lists of names -/

/-- The parts of `orTail`, with the words before it. -/
def tailParts (words : String) : List String → List (String × String)
  | [] => []
  | [last] => [(words ++ "or ", last)]
  | item :: rest => (words, item) :: tailParts ", " rest

/-- The parts of `orList`, with the words before it. -/
def orParts (words : String) : List String → List (String × String)
  | [] => []
  | [only] => [(words, only)]
  | [first, second] => [(words, first), (" or ", second)]
  | items => tailParts words items

/-- The names of a list with commas, put together from their parts. -/
theorem append_orTail {items : List String} (h : items ≠ []) (words ending : String) :
    words ++ orTail items ++ ending = wording (tailParts words items) ending := by
  fun_induction orTail items generalizing words with
  | case1 => exact absurd rfl h
  | case2 last => simp [tailParts, wording, String.append_assoc]
  | case3 item rest hrest ih =>
    rw [tailParts, wording_cons, ← ih hrest ", "]
    · simp [String.append_assoc]
    · exact hrest

/-- A list in words is put together from its parts, with words before and after it. -/
theorem append_orList {items : List String} (h : items ≠ []) (words ending : String) :
    words ++ orList items ++ ending = wording (orParts words items) ending := by
  rcases items with - | ⟨first, - | ⟨second, - | ⟨third, rest⟩⟩⟩
  · exact absurd rfl h
  · simp [orList, orParts, wording]
  · simp [orList, orParts, wording, String.append_assoc]
  · exact append_orTail h words ending

/-- The parts with commas name what the list names. -/
theorem map_snd_tailParts (words : String) (items : List String) :
    (tailParts words items).map Prod.snd = items := by
  fun_induction tailParts words items with
  | case1 => rfl
  | case2 => rfl
  | case3 words item rest _ ih => rw [List.map_cons, ih]

/-- The parts of a list name what the list names. -/
theorem map_snd_orParts (words : String) (items : List String) :
    (orParts words items).map Prod.snd = items := by
  rcases items with - | ⟨first, - | ⟨second, - | ⟨third, rest⟩⟩⟩
  · rfl
  · rfl
  · rfl
  · exact map_snd_tailParts words _

/-- The parts of a list begin with the words before it. -/
theorem head?_orParts {items : List String} (h : items ≠ []) (words : String) :
    (orParts words items).head?.map Prod.fst = some words := by
  rcases items with - | ⟨first, - | ⟨second, - | ⟨third, rest⟩⟩⟩
  · exact absurd rfl h
  · rfl
  · rfl
  · rfl

/-- The words between names with commas have no quotes. -/
theorem unquoted_fst_of_mem_tailParts {words : String} (hwords : Unquoted words)
    {items : List String} {p : String × String} (hp : p ∈ tailParts words items) :
    Unquoted p.1 := by
  fun_induction tailParts words items with
  | case1 => exact absurd hp List.not_mem_nil
  | case2 words last =>
    obtain rfl := List.mem_singleton.1 hp
    rw [Unquoted, String.toList_append, List.mem_append, not_or]
    exact ⟨hwords, by decide⟩
  | case3 words item rest _ ih =>
    rcases List.mem_cons.1 hp with rfl | hp
    · exact hwords
    · exact ih (by decide) hp

/-- The words between the names have no quotes. -/
theorem unquoted_fst_of_mem_orParts {words : String} (hwords : Unquoted words)
    {items : List String} {p : String × String} (hp : p ∈ orParts words items) :
    Unquoted p.1 := by
  rcases items with - | ⟨first, - | ⟨second, - | ⟨third, rest⟩⟩⟩
  · exact absurd hp List.not_mem_nil
  · obtain rfl := List.mem_singleton.1 hp
    exact hwords
  · rcases List.mem_cons.1 hp with rfl | hp
    · exact hwords
    · obtain rfl := List.mem_singleton.1 hp
      show Unquoted " or "
      decide
  · exact unquoted_fst_of_mem_tailParts hwords hp

/-- A list has no quotes of its own if the words before it and the names have none. -/
theorem allUnquoted_orParts {words : String} {items : List String} (hwords : Unquoted words)
    (hitems : ∀ item ∈ items, Unquoted item) : AllUnquoted (orParts words items) := by
  intro p hp
  refine ⟨unquoted_fst_of_mem_orParts hwords hp, hitems p.2 ?_⟩
  rw [← map_snd_orParts words items]
  exact List.mem_map_of_mem hp

/-- The parts tell the names, and the words before the first of them if there is one. -/
theorem eq_of_orParts_eq {words words' : String} {items items' : List String}
    (h : orParts words items = orParts words' items') :
    items = items' ∧ (items ≠ [] → words = words') := by
  have hitems : items = items' := by
    rw [← map_snd_orParts words items, h, map_snd_orParts]
  refine ⟨hitems, fun hne ↦ ?_⟩
  have hwords : some words = some words' := by
    rw [← head?_orParts hne words, h, head?_orParts (hitems ▸ hne)]
  exact Option.some.inj hwords

/-- A list in words tells its names. -/
theorem orList_inj {items items' : List String} (h : ∀ item ∈ items, Unquoted item)
    (h' : ∀ item ∈ items', Unquoted item) (heq : orList items = orList items') :
    items = items' := by
  have hwording (items : List String) : orList items = wording (orParts "" items) "" := by
    by_cases hne : items = []
    · rw [hne]
      rfl
    · simpa using append_orList hne "" ""
  rw [hwording, hwording] at heq
  have hparts := wording_inj (allUnquoted_orParts (by decide) h)
    (allUnquoted_orParts (by decide) h') (by decide) (by decide) heq
  exact (eq_of_orParts_eq hparts.1).1

/-! ### Messages -/

namespace FieldError

/-- The field that the error is about. -/
def field : FieldError → String
  | unknown field _ _ => field
  | onPossibleTypes field _ _ => field

/-- The type that the error is about. -/
def type : FieldError → String
  | unknown _ type _ => type
  | onPossibleTypes _ type _ => type

/-- The words before the suggestions that tell what is suggested. -/
def lead : FieldError → String
  | unknown .. => ""
  | onPossibleTypes .. => "to use an inline fragment on "

/-- The words after the last name. -/
def ending (e : FieldError) : String := if e.suggested.isEmpty then "." else "?"

/-- The words and names of the message. -/
def parts (e : FieldError) : List (String × String) :=
  ("Cannot query field ", e.field) :: (" on type ", e.type) ::
    orParts (". Did you mean " ++ e.lead) e.suggested

/-- Both messages say what cannot be queried and then ask about the suggestions. -/
theorem message_eq (e : FieldError) :
    e.message = cannotQuery e.field e.type ++ question e.lead e.suggested := by
  cases e <;> rfl

/-- The question and the full stop before it, put together from their parts. -/
theorem append_question (words : String) (names : List String) : "." ++ question words names =
    wording (orParts (". Did you mean " ++ words) names) (if names.isEmpty then "." else "?") := by
  by_cases hnames : names = []
  · rw [hnames]
    rfl
  · have hwords : "." ++ " Did you mean " = ". Did you mean " := by decide
    have hempty : ¬ names.isEmpty = true := by simpa using hnames
    rw [question, if_neg hempty, if_neg hempty, ← append_orList hnames]
    calc "." ++ (" Did you mean " ++ words ++ orList names ++ "?")
        _ = "." ++ " Did you mean " ++ words ++ orList names ++ "?" := by
          simp only [String.append_assoc]
        _ = ". Did you mean " ++ words ++ orList names ++ "?" :=
          congrArg (· ++ words ++ orList names ++ "?") hwords

/-- A message is put together from its parts. -/
theorem message_eq_wording (e : FieldError) : e.message = wording e.parts e.ending := by
  have hquestion : wording (orParts (". Did you mean " ++ e.lead) e.suggested) e.ending =
      "." ++ question e.lead e.suggested := by
    rw [append_question, ending]
  rw [message_eq, parts, wording_cons, wording_cons, hquestion]
  unfold cannotQuery
  simp only [String.append_assoc]

/-- The names in an error hold no quotes, and types are suggested only where there are any. -/
structure Legible (e : FieldError) : Prop where
  /-- The name of the field. -/
  field : Unquoted e.field
  /-- The name of the type. -/
  type : Unquoted e.type
  /-- The suggestions. -/
  suggested : ∀ name ∈ e.suggested, Unquoted name
  /-- An error without suggestions is that of an unknown field. -/
  nonempty : e.suggested = [] → e = unknown e.field e.type []

/-- The parts of a legible error have no quotes of their own. -/
theorem Legible.allUnquoted_parts {e : FieldError} (h : e.Legible) : AllUnquoted e.parts := by
  have hlead : Unquoted (". Did you mean " ++ e.lead) := by
    cases e with
    | unknown => exact (by decide : Unquoted (". Did you mean " ++ ""))
    | onPossibleTypes =>
      exact (by decide : Unquoted (". Did you mean " ++ "to use an inline fragment on "))
  have hquery : Unquoted "Cannot query field " := by decide
  have htype : Unquoted " on type " := by decide
  rw [parts, AllUnquoted, List.forall_mem_cons, List.forall_mem_cons]
  exact ⟨⟨hquery, h.field⟩, ⟨htype, h.type⟩, allUnquoted_orParts hlead h.suggested⟩

/-- The words at the end have no quotes. -/
theorem unquoted_ending (e : FieldError) : Unquoted e.ending := by
  rw [ending]
  split <;> decide

/-- An error is told by its lead, its field, its type and its suggestions. -/
theorem eq_of_lead_eq {e e' : FieldError} (hlead : e.lead = e'.lead) (hfield : e.field = e'.field)
    (htype : e.type = e'.type) (hsuggested : e.suggested = e'.suggested) : e = e' := by
  cases e with
  | unknown field type fields =>
    cases e' with
    | unknown field' type' fields' =>
      exact congr (congr (congrArg unknown hfield) htype) hsuggested
    | onPossibleTypes => exact absurd hlead (by decide : "" ≠ "to use an inline fragment on ")
  | onPossibleTypes field type types =>
    cases e' with
    | unknown => exact absurd hlead (by decide : "to use an inline fragment on " ≠ "")
    | onPossibleTypes field' type' types' =>
      exact congr (congr (congrArg onPossibleTypes hfield) htype) hsuggested

/-- **A message tells its error.** -/
theorem eq_of_message_eq {e e' : FieldError} (h : e.Legible) (h' : e'.Legible)
    (heq : e.message = e'.message) : e = e' := by
  rw [message_eq_wording, message_eq_wording] at heq
  obtain ⟨hparts, -⟩ := wording_inj h.allUnquoted_parts h'.allUnquoted_parts e.unquoted_ending
    e'.unquoted_ending heq
  obtain ⟨hfield, hparts⟩ := List.cons.inj hparts
  obtain ⟨htype, hparts⟩ := List.cons.inj hparts
  replace hfield : e.field = e'.field := (Prod.mk.inj hfield).2
  replace htype : e.type = e'.type := (Prod.mk.inj htype).2
  obtain ⟨hsuggested, hwords⟩ := eq_of_orParts_eq hparts
  by_cases hempty : e.suggested = []
  · rw [h.nonempty hempty, h'.nonempty (hsuggested ▸ hempty), hfield, htype]
  · have hlead : e.lead = e'.lead := (String.append_right_inj _).1 (hwords hempty)
    exact eq_of_lead_eq hlead hfield htype hsuggested

end FieldError

/-! ### Errors about fields -/

/-- A built schema, with names that are made of the characters of names. -/
structure Schema.Spelled (s : Schema) : Prop where
  /-- The schema is built. -/
  built : s.Built
  /-- The names in it are spelled. -/
  types : TypesSpelled s.types

/-- A schema of spelled declarations is spelled. -/
theorem Schema.spelled_of_ofDocuments {docs : List SchemaDocument} {s : Schema}
    (hdocs : ∀ doc ∈ docs, ∀ declaration ∈ doc.declarations, declaration.Spelled)
    (h : ofDocuments docs = .ok s) : s.Spelled := by
  refine ⟨built_of_ofDocuments h, ?_⟩
  obtain ⟨d, hd, hs⟩ := bind_eq_ok_iff.1 h
  rw [Draft.types_of_build hs]
  exact Draft.typesSpelled_of_loadDocuments hdocs hd

section Spelled

variable {s : Schema} {t : NamedType} {name : String}

/-- The name that a type is found under is spelled. -/
theorem Schema.Spelled.nameLike_of_type? (h : s.Spelled) (ht : s.type? name = some t) :
    NameLike name := by
  rw [← h.built.byName.names.name_of_get? ht]
  exact (h.types t (Dict.mem_values_of_get? ht)).name

/-- The names of the fields of a type are spelled. -/
theorem Schema.Spelled.nameLike_of_mem_fieldNames (h : s.Spelled) (ht : t ∈ s.types.values)
    (hname : name ∈ t.fieldNames) : NameLike name := by
  rw [NamedType.mem_fieldNames_iff] at hname
  obtain ⟨f, hf⟩ := Option.isSome_iff_exists.1 hname
  obtain ⟨fields, hfields, hf⟩ := Option.bind_eq_some_iff.1 hf
  rw [← ((h.built.byName.shapes t ht).fields hfields).1.name_of_get? hf]
  exact ((h.types t ht).fields fields hfields f (Dict.mem_values_of_get? hf)).name

/-- An error about a field has names from the schema, and it suggests types only if there are any.
-/
theorem legible_of_checkField (h : s.Spelled) (ht : t ∈ s.types.values) (hname : NameLike name)
    {e : FieldError} (he : checkField s t name = some e) : e.Legible := by
  obtain ⟨-, -, -, herror⟩ := checkField_eq_some_iff.1 he
  have htype : NameLike t.name := (h.types t ht).name
  cases e with
  | unknown field type fields =>
    obtain ⟨rfl, rfl, rfl, -⟩ := fieldError_eq_unknown_iff.1 herror
    refine ⟨hname.unquoted, htype.unquoted, fun field hfield ↦ ?_, fun hempty ↦ ?_⟩
    · have hdeclared : field ∈ t.fieldNames := Suggestion.mem_of_mem_suggest hfield
      exact (h.nameLike_of_mem_fieldNames ht hdeclared).unquoted
    · exact congrArg (FieldError.unknown name t.name) hempty
  | onPossibleTypes field type types =>
    obtain ⟨rfl, rfl, howners, hne⟩ := fieldError_eq_onPossibleTypes_iff.1 herror
    refine ⟨hname.unquoted, htype.unquoted, fun possible hpossible ↦ ?_, fun hempty ↦ ?_⟩
    · obtain ⟨u, hu, -⟩ := (suggestsTypes_of_possibleOwners h.built howners hne).repairs
        possible hpossible
      exact (h.nameLike_of_type? hu).unquoted
    · exact absurd hempty hne

end Spelled

/-- **Messages are unambiguous.** A list of names in words tells the names. Two errors about fields
with one message are one error, whatever schemas, types and fields they are about. Schemas that come
from texts and files are such as is asked for. -/
theorem messages_unambiguous :
    (∀ items items' : List String, (∀ item ∈ items, NameLike item) →
      (∀ item ∈ items', NameLike item) → orList items = orList items' → items = items') ∧
    (∀ s s' : Schema, s.Spelled → s'.Spelled →
      ∀ t ∈ s.types.values, ∀ t' ∈ s'.types.values,
      ∀ name name' : String, NameLike name → NameLike name' →
      ∀ e e' : FieldError, checkField s t name = some e → checkField s' t' name' = some e' →
        e.message = e'.message → e = e') ∧
    (∀ sources s, Schema.ofTexts sources = .ok s → s.Spelled) ∧
    ∀ disk paths s, Schema.ofFiles disk paths = .ok s → s.Spelled := by
  refine ⟨?_, ?_, ?_, ?_⟩
  · intro items items' h h' heq
    exact orList_inj (fun item hitem ↦ (h item hitem).unquoted)
      (fun item hitem ↦ (h' item hitem).unquoted) heq
  · intro s s' h h' t ht t' ht' name name' hname hname' e e' he he' heq
    exact FieldError.eq_of_message_eq (legible_of_checkField h ht hname he)
      (legible_of_checkField h' ht' hname' he') heq
  · intro sources s h
    exact ⟨Schema.built_of_ofTexts h, Schema.typesSpelled_of_ofTexts h⟩
  · intro disk paths s h
    exact ⟨Schema.built_of_ofFiles h, Schema.typesSpelled_of_ofFiles h⟩

theorem messages_nodeDeclarations : ∃ s : Schema, s.Spelled ∧
    ∃ t ∈ s.types.values, ∃ e, NameLike "name" ∧ checkField s t "name" = some e ∧
      e.message = "Cannot query field \"name\" on type \"Node\". " ++
        "Did you mean to use an inline fragment on \"User\"?" ∧
      ∀ t' ∈ s.types.values, ∀ name e', NameLike name → checkField s t' name = some e' →
        e.message = e'.message → e = e' := by
  have h : ∃ s, Schema.ofDocuments [⟨none, nodeDeclarations⟩] = .ok s ∧
      ∃ t ∈ s.types.values,
        checkField s t "name" = some (.onPossibleTypes "name" "Node" ["User"]) :=
    ⟨_, rfl, by decide +kernel⟩
  obtain ⟨s, hs, t, ht, hcheck⟩ := h
  have hspelled : s.Spelled := Schema.spelled_of_ofDocuments (by decide +kernel) hs
  have hname : NameLike "name" := by decide
  refine ⟨s, hspelled, t, ht, _, hname, hcheck, by decide +kernel, ?_⟩
  intro t' ht' name e' hname' hcheck' heq
  exact messages_unambiguous.2.1 s s hspelled hspelled t ht t' ht' "name" name hname hname' _ e'
    hcheck hcheck' heq

end GraphQLCheck
