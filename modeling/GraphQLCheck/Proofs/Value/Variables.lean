import GraphQLCheck.Proofs.Grammar.Yields
import GraphQLCheck.Value

/-!
# Variables in values

A variable can stand in a value at any depth, in a list or in a field of an object
(`Value.Mentions`). A value that mentions none is constant, and whether it is can be computed from
the variables that are met on the way through it (`Value.mentioned`). Where the grammar asks for a
constant, it reads only constants (`Value.parser_yields`).
-/

namespace GraphQLCheck.Value

/-- The variable `x` occurs somewhere in a value. -/
inductive Mentions (x : String) : Value → Prop
  /-- The value is the variable. -/
  | here : Mentions x (.variable x)
  /-- The variable occurs in an item of a list. -/
  | item {items : List Value} {v : Value} : v ∈ items → Mentions x v → Mentions x (.list items)
  /-- The variable occurs in a field of an object. -/
  | field {fields : List (String × Value)} {name : String} {v : Value} :
    (name, v) ∈ fields → Mentions x v → Mentions x (.object fields)

/-- No variable occurs in the value. -/
def Constant (v : Value) : Prop := ∀ x, ¬ Mentions x v

mutual

/-- The variables of a value, from left to right. -/
def mentioned : Value → List String
  | .variable name => [name]
  | .list items => mentionedInAll items
  | .object fields => mentionedInFields fields
  | .int _ | .float _ | .string _ | .boolean _ | .null | .enum _ => []

/-- The variables of some values. -/
def mentionedInAll : List Value → List String
  | [] => []
  | v :: vs => v.mentioned ++ mentionedInAll vs

/-- The variables of the fields of an object. -/
def mentionedInFields : List (String × Value) → List String
  | [] => []
  | (_, v) :: fields => v.mentioned ++ mentionedInFields fields

end

/-! ### The variables that are met are those that occur -/

/-- The variables of some values are those of each, one after the other. -/
theorem mentionedInAll_eq_flatMap (items : List Value) :
    mentionedInAll items = items.flatMap mentioned := by
  induction items with
  | nil => rfl
  | cons v vs ih => rw [mentionedInAll, ih, List.flatMap_cons]

/-- The variables of an object are those of each field, one after the other. -/
theorem mentionedInFields_eq_flatMap (fields : List (String × Value)) :
    mentionedInFields fields = fields.flatMap fun f ↦ f.2.mentioned := by
  induction fields with
  | nil => rfl
  | cons f fields ih => rw [mentionedInFields, ih, List.flatMap_cons]

mutual

/-- A variable that is met on the way through a value occurs in it. -/
theorem mentions_of_mem_mentioned {x : String} : ∀ {v : Value}, x ∈ v.mentioned → Mentions x v
  | .variable name, h => List.mem_singleton.1 h ▸ .here
  | .list items, h => by
    obtain ⟨v, hv, hmentions⟩ := mentions_of_mem_mentionedInAll h
    exact .item hv hmentions
  | .object fields, h => by
    obtain ⟨name, v, hv, hmentions⟩ := mentions_of_mem_mentionedInFields h
    exact .field hv hmentions
  | .int _, h | .float _, h | .string _, h | .boolean _, h | .null, h | .enum _, h =>
    absurd h List.not_mem_nil

/-- A variable that is met in some values occurs in one of them. -/
theorem mentions_of_mem_mentionedInAll {x : String} :
    ∀ {items : List Value}, x ∈ mentionedInAll items → ∃ v ∈ items, Mentions x v
  | v :: vs, h => by
    rcases List.mem_append.1 h with h | h
    · exact ⟨v, List.mem_cons_self, mentions_of_mem_mentioned h⟩
    · obtain ⟨w, hw, hmentions⟩ := mentions_of_mem_mentionedInAll h
      exact ⟨w, List.mem_cons_of_mem v hw, hmentions⟩

/-- A variable that is met in the fields of an object occurs in one of them. -/
theorem mentions_of_mem_mentionedInFields {x : String} :
    ∀ {fields : List (String × Value)}, x ∈ mentionedInFields fields →
      ∃ name v, (name, v) ∈ fields ∧ Mentions x v
  | (name, v) :: fields, h => by
    rcases List.mem_append.1 h with h | h
    · exact ⟨name, v, List.mem_cons_self, mentions_of_mem_mentioned h⟩
    · obtain ⟨name', w, hw, hmentions⟩ := mentions_of_mem_mentionedInFields h
      exact ⟨name', w, List.mem_cons_of_mem _ hw, hmentions⟩

end

/-- The way through a value meets the variables that occur in it and no others. -/
theorem mem_mentioned_iff {x : String} {v : Value} : x ∈ v.mentioned ↔ Mentions x v := by
  refine ⟨mentions_of_mem_mentioned, fun h ↦ ?_⟩
  induction h with
  | here => exact List.mem_singleton_self x
  | item hv _ ih =>
    rw [mentioned, mentionedInAll_eq_flatMap]
    exact List.mem_flatMap.2 ⟨_, hv, ih⟩
  | field hv _ ih =>
    rw [mentioned, mentionedInFields_eq_flatMap]
    exact List.mem_flatMap.2 ⟨_, hv, ih⟩

/-- A value is constant when no variable is met, which can be computed. -/
theorem constant_iff {v : Value} : v.Constant ↔ v.mentioned = [] := by
  simp only [Constant, ← mem_mentioned_iff, List.eq_nil_iff_forall_not_mem]

instance (v : Value) : Decidable v.Constant := decidable_of_iff _ constant_iff.symm

/-- A list is constant when its items are. -/
theorem constant_list_iff {items : List Value} :
    (list items).Constant ↔ ∀ v ∈ items, v.Constant := by
  simp only [constant_iff, mentioned, mentionedInAll_eq_flatMap, List.flatMap_eq_nil_iff]

/-- An object is constant when its fields are. -/
theorem constant_object_iff {fields : List (String × Value)} :
    (object fields).Constant ↔ ∀ f ∈ fields, f.2.Constant := by
  simp only [constant_iff, mentioned, mentionedInFields_eq_flatMap, List.flatMap_eq_nil_iff]

/-! ### Constants in the grammar -/

/-- After a field is put into its place, there is that field and what was there before. -/
theorem mem_of_mem_insertField {name : String} {value : Value} {fields : List (String × Value)}
    {f : String × Value} (h : f ∈ insertField name value fields) :
    f = (name, value) ∨ f ∈ fields := by
  induction fields with
  | nil => exact Or.inl (List.mem_singleton.1 h)
  | cons g fields ih =>
    obtain ⟨n, v⟩ := g
    rw [insertField] at h
    split at h
    · rcases List.mem_cons.1 h with h | h
      · exact Or.inl h
      · exact Or.inr (List.mem_cons_of_mem _ h)
    · split at h
      · exact List.mem_cons.1 h
      · rcases List.mem_cons.1 h with rfl | h
        · exact Or.inr List.mem_cons_self
        · exact (ih h).imp_right (List.mem_cons_of_mem _)

/-- Sorting the fields of an object brings in nothing that is not written. -/
theorem mem_of_mem_sortFields {written : List (String × Value)} {f : String × Value}
    (h : f ∈ sortFields written) : f ∈ written := by
  have key : ∀ (written fields : List (String × Value)),
      f ∈ written.foldl (fun fields g ↦ insertField g.1 g.2 fields) fields →
        f ∈ written ∨ f ∈ fields := by
    intro written
    induction written with
    | nil => exact fun fields h ↦ Or.inr h
    | cons g written ih =>
      intro fields h
      rcases ih _ h with h | h
      · exact Or.inl (List.mem_cons_of_mem g h)
      · rcases mem_of_mem_insertField h with rfl | h
        · exact Or.inl List.mem_cons_self
        · exact Or.inr h
  exact (key written [] h).resolve_right List.not_mem_nil

/-- What a single token denotes is constant: a variable takes two. -/
theorem constant_of_ofLexeme? {lexeme : Lexeme} {v : Value} (h : ofLexeme? lexeme = some v) :
    v.Constant := by
  rw [constant_iff]
  cases lexeme with
  | name text =>
    obtain rfl := Option.some.inj h
    rw [ofName]
    split
    · rfl
    split
    · rfl
    split <;> rfl
  | int value | float value | string text =>
    obtain rfl := Option.some.inj h
    rfl
  | punct p => cases h
  | void fault => cases h

/-- A value that is read where a constant is asked for is constant. -/
def FitsPlace (constant : Bool) (v : Value) : Prop := constant = true → v.Constant

/-- A value of one token fits every place. -/
theorem yields_tokenParser (constant : Bool) : tokenParser.Yields (FitsPlace constant) :=
  .bind .demandMeaning fun _ _ ↦ .take fun _ _ _ h _ ↦ constant_of_ofLexeme? h

/-- A value with nothing inside it is a variable only where variables may stand. -/
theorem yields_simpleParser (constant : Bool) :
    (simpleParser constant).Yields (FitsPlace constant) := by
  cases constant with
  | true => exact yields_tokenParser true
  | false =>
    refine .bind_ite .accept ?_ (yields_tokenParser false)
    exact .bind .name fun _ _ ↦ .pure Bool.noConfusion

/-- **Constants in the grammar.** Where the grammar asks for a constant, it reads no variable, at
whatever depth. -/
theorem parser_yields (constant : Bool) (depth : Nat) :
    (parser constant depth).Yields (FitsPlace constant) := by
  induction depth with
  | zero => exact yields_simpleParser constant
  | succ depth ih =>
    refine .bind_ite .accept ?_ (.bind_ite .accept ?_ (yields_simpleParser constant))
    · refine .bind (.manyBefore ih) fun items hitems ↦ .bind .punct fun _ _ ↦ .pure ?_
      intro hconstant
      exact constant_list_iff.2 fun v hv ↦ hitems v hv hconstant
    · have hentry : Parser.Yields (do
          let name ← Parser.name
          Parser.punct .colon
          return (name, ← parser constant depth)) fun f ↦ FitsPlace constant f.2 :=
        .bind .name fun _ _ ↦ .bind .punct fun _ _ ↦ .bind ih fun _ hv ↦ .pure hv
      refine .bind (.manyBefore hentry) fun fields hfields ↦ .bind .punct fun _ _ ↦ .pure ?_
      intro hconstant
      exact constant_object_iff.2 fun f hf ↦ hfields f (mem_of_mem_sortFields hf) hconstant

end GraphQLCheck.Value
