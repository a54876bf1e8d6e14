import GraphQLCheck.Dict
import GraphQLCheck.Json
import Mathlib.Data.List.Forall2
import Mathlib.Data.List.Nodup

/-!
# Objects in another order

The members of an object have no order: a value may come back with its objects sorted by name, or in
any other order. `Json.Reordered` is this relation, at every depth at once. Only members with
different names change places (`Reordered.of_perm`), so that looking a name up finds related values
on both sides (`Reordered.exists_member?`). That no object has two members of one name in the first
place is `Json.Distinct`.

A reader recovers a kind of result from a value (`Json.Recovers`) when it gives such a result for
every order of the members. Readers of members and of items recover as soon as the readers inside of
them do (`Recovers.field?`, `Recovers.items?`), so that a reader that is made of these is dealt with
one member after the other.
-/

namespace GraphQLCheck.Json

/-- The second value is the first one with the members of objects in some other order. -/
inductive Reordered : Json → Json → Prop
  | refl (j : Json) : Reordered j j
  | array {items items' : List Json} (h : List.Forall₂ Reordered items items') :
    Reordered (.array items) (.array items')
  | object {members members' : List (String × Json)} (nodup : (members.map Prod.fst).Nodup)
    (perm : (members.map Prod.fst).Perm (members'.map Prod.fst))
    (h : ∀ key j k, (key, j) ∈ members → (key, k) ∈ members' → Reordered j k) :
    Reordered (.object members) (.object members')

/-- No object of the value has two members of one name. -/
inductive Distinct : Json → Prop
  | null : Distinct .null
  | bool (value : Bool) : Distinct (.bool value)
  | number (value : Nat) : Distinct (.number value)
  | string (text : String) : Distinct (.string text)
  | array {items : List Json} (h : ∀ j ∈ items, Distinct j) : Distinct (.array items)
  | object {members : List (String × Json)} (nodup : (members.map Prod.fst).Nodup)
    (h : ∀ m ∈ members, Distinct m.2) : Distinct (.object members)

theorem distinct_ofOption : ∀ text? : Option String, Distinct (.ofOption text?)
  | none => .null
  | some text => .string text

section Lists

variable {α β : Type}

/-- Trying each of a list gives the list of all results. -/
theorem mapM_eq_some_iff {f : α → Option β} {l : List α} {l' : List β} :
    l.mapM f = some l' ↔ List.Forall₂ (fun a b ↦ f a = some b) l l' := by
  induction l generalizing l' with
  | nil => simp [eq_comm]
  | cons a l ih =>
    rw [List.mapM_cons, List.forall₂_cons_left_iff]
    simp only [Option.bind_eq_bind, Option.bind_eq_some_iff, Option.pure_def, Option.some.injEq, ih]
    constructor
    · rintro ⟨b, hb, bs, hbs, rfl⟩
      exact ⟨b, bs, hb, hbs, rfl⟩
    · rintro ⟨b, bs, hb, hbs, rfl⟩
      exact ⟨b, hb, bs, hbs, rfl⟩

/-- When each of a list has a partner, there is a list of partners. -/
theorem exists_forall₂ {R : α → β → Prop} {l : List α} (h : ∀ a ∈ l, ∃ b, R a b) :
    ∃ l', List.Forall₂ R l l' := by
  induction l with
  | nil => exact ⟨[], .nil⟩
  | cons a l ih =>
    obtain ⟨b, hb⟩ := h a List.mem_cons_self
    obtain ⟨l', hl'⟩ := ih fun a' ha' ↦ h a' (List.mem_cons_of_mem a ha')
    exact ⟨b :: l', .cons hb hl'⟩

end Lists

/-! ### What stays in every order -/

namespace Reordered

variable {members : List (String × Json)} {key : String} {j k : Json}

/-- With different names, members of one name are one member. -/
theorem of_mem (nodup : (members.map Prod.fst).Nodup) (hj : (key, j) ∈ members)
    (hk : (key, k) ∈ members) : Reordered j k := by
  have heq : (key, j) = (key, k) := List.inj_on_of_nodup_map nodup hj hk rfl
  rw [(Prod.mk.inj heq).2]
  exact .refl k

/-- Members with different names may change places. -/
theorem of_perm {members' : List (String × Json)} (nodup : (members.map Prod.fst).Nodup)
    (h : members.Perm members') : Reordered (.object members) (.object members') :=
  .object nodup (h.map Prod.fst) fun _ _ _ hj hk ↦ of_mem nodup hj (h.mem_iff.2 hk)

/-- Objects with different names become objects with the same names, each for a related value. -/
theorem exists_object (h : Reordered (.object members) k) (nodup : (members.map Prod.fst).Nodup) :
    ∃ members', k = .object members' ∧ (members.map Prod.fst).Perm (members'.map Prod.fst) ∧
      ∀ key j k, (key, j) ∈ members → (key, k) ∈ members' → Reordered j k := by
  cases h with
  | refl => exact ⟨members, rfl, .refl _, fun _ _ _ ↦ of_mem nodup⟩
  | object _ perm h => exact ⟨_, rfl, perm, h⟩

/-- A name is looked up to related values. -/
theorem exists_member? (h : Reordered (.object members) k) (hj : members.lookup key = some j) :
    ∃ j', k.member? key = some j' ∧ Reordered j j' := by
  cases h with
  | refl => exact ⟨j, hj, .refl j⟩
  | @object _ members' nodup perm h =>
    have hmem : (key, j) ∈ members :=
      Dict.get?_eq_some_iff (d := ⟨members, nodup⟩).1 hj
    obtain ⟨⟨_, j'⟩, hj', rfl⟩ := List.mem_map.1 (perm.mem_iff.1 (List.mem_map_of_mem hmem))
    exact ⟨j', (Dict.get?_eq_some_iff (d := ⟨members', perm.nodup_iff.1 nodup⟩)).2 hj',
      h _ _ _ hmem hj'⟩

/-- A choice stays a choice of the same kind. -/
theorem exists_variant (h : Reordered (.object [(key, j)]) k) :
    ∃ j', k = .object [(key, j')] ∧ Reordered j j' := by
  obtain ⟨members', rfl, perm, h⟩ := h.exists_object (List.nodup_singleton key)
  obtain ⟨⟨_, j'⟩, rfl, rfl⟩ := List.map_eq_singleton_iff.1 (List.singleton_perm.1 perm).symm
  exact ⟨j', rfl, h _ _ _ List.mem_cons_self List.mem_cons_self⟩

end Reordered

/-! ### Reading in every order -/

/-- A reader gets a result of this kind from a value, whatever order the members are in. -/
def Recovers {α : Type} (read : Json → Option α) (j : Json) (P : α → Prop) : Prop :=
  ∀ k, Reordered j k → ∃ a, read k = some a ∧ P a

theorem recovers_asNull? : Recovers asNull? .null (· = ()) := by
  rintro _ ⟨⟩
  exact ⟨(), rfl, rfl⟩

theorem recovers_asBool? (value : Bool) : Recovers asBool? (.bool value) (· = value) := by
  rintro _ ⟨⟩
  exact ⟨value, rfl, rfl⟩

theorem recovers_asNat? (value : Nat) : Recovers asNat? (.number value) (· = value) := by
  rintro _ ⟨⟩
  exact ⟨value, rfl, rfl⟩

theorem recovers_asString? (text : String) : Recovers asString? (.string text) (· = text) := by
  rintro _ ⟨⟩
  exact ⟨text, rfl, rfl⟩

theorem recovers_asOption? (text? : Option String) :
    Recovers asOption? (.ofOption text?) (· = text?) := by
  cases text? <;> rintro _ ⟨⟩ <;> exact ⟨_, rfl, rfl⟩

namespace Recovers

variable {α : Type} {read : Json → Option α} {j k : Json} {a : α} {P Q : α → Prop}

theorem mono (h : Recovers read j P) (hPQ : ∀ a, P a → Q a) : Recovers read j Q := by
  intro k hk
  obtain ⟨a, ha, hPa⟩ := h k hk
  exact ⟨a, ha, hPQ a hPa⟩

/-- In its own order, a value is read as what it recovers to. -/
theorem read_eq (h : Recovers read j (· = a)) : read j = some a := by
  obtain ⟨_, hread, rfl⟩ := h j (.refl j)
  exact hread

variable {members : List (String × Json)}

/-- What is read from a member is recovered from the object. -/
theorem field? (h : Recovers read j P) (hk : Reordered (.object members) k) (key : String)
    (hj : members.lookup key = some j) : ∃ a, k.field? key read = some a ∧ P a := by
  obtain ⟨j', hmember, hj'⟩ := hk.exists_member? hj
  obtain ⟨a, hread, ha⟩ := h j' hj'
  exact ⟨a, by rw [Json.field?, hmember, Option.bind_some, hread], ha⟩

theorem field?_eq (h : Recovers read j (· = a)) (hk : Reordered (.object members) k) (key : String)
    (hj : members.lookup key = some j) : k.field? key read = some a := by
  obtain ⟨_, hfield, rfl⟩ := h.field? hk key hj
  exact hfield

/-- A list is recovered item by item. -/
theorem items? {write : α → Json} (h : ∀ a, Recovers read (write a) (· = a)) (l : List α) :
    Recovers (Json.items? read) (.array (l.map write)) (· = l) := by
  intro k hk
  have hitems : ∃ items, k = .array items ∧ List.Forall₂ Reordered (l.map write) items := by
    cases hk with
    | refl => exact ⟨_, rfl, List.forall₂_same.2 fun j _ ↦ .refl j⟩
    | array hitems => exact ⟨_, rfl, hitems⟩
  obtain ⟨items, rfl, hitems⟩ := hitems
  rw [List.forall₂_map_left_iff] at hitems
  refine ⟨l, mapM_eq_some_iff.2 (hitems.flip.imp fun j a hj ↦ ?_), rfl⟩
  obtain ⟨_, hread, rfl⟩ := h a j hj
  exact hread

end Recovers

end GraphQLCheck.Json
