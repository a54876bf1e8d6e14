/-!
# Dictionaries in order of insertion

A `Dict` maps names to values and remembers in which order the names came. Inserting a name that is
there already replaces its value and leaves it in its place (`keys_insert`); looking a name up after
an insertion gives the new value for that name and the old one for every other (`get?_insert`).

Two dictionaries are the same when they map the same names to the same values, in whatever order
(`Dict.sameBy`).
-/

namespace GraphQLCheck

/-- A map from names to values that keeps the order in which the names were first inserted. -/
structure Dict (α : Type) where
  /-- The names with their values, in order. -/
  entries : List (String × α)
  /-- No name occurs twice. -/
  nodup : (entries.map Prod.fst).Nodup
  deriving DecidableEq

namespace Dict

variable {α : Type}

/-- No names at all. -/
def empty : Dict α := ⟨[], List.nodup_nil⟩

instance : Inhabited (Dict α) := ⟨empty⟩

/-- The names, in order. -/
def keys (d : Dict α) : List String := d.entries.map Prod.fst

/-- The values, in the order of their names. -/
def values (d : Dict α) : List α := d.entries.map Prod.snd

/-- The number of names. -/
def size (d : Dict α) : Nat := d.entries.length

/-- The value of a name. -/
def get? (d : Dict α) (key : String) : Option α := d.entries.lookup key

/-- Whether a name has a value. -/
def contains (d : Dict α) (key : String) : Bool := (d.get? key).isSome

/-- Puts a value at the place of its name, or at the end if the name is new. -/
def insertEntry (key : String) (value : α) : List (String × α) → List (String × α)
  | [] => [(key, value)]
  | (k, v) :: entries =>
    if key = k then (key, value) :: entries else (k, v) :: insertEntry key value entries

/-- A key that is there keeps its place, and a new one comes last. -/
theorem map_fst_insertEntry (key : String) (value : α) (entries : List (String × α)) :
    (insertEntry key value entries).map Prod.fst =
      if key ∈ entries.map Prod.fst then entries.map Prod.fst
      else entries.map Prod.fst ++ [key] := by
  induction entries with
  | nil => simp [insertEntry]
  | cons e entries ih =>
    by_cases h : key = e.1
    · simp [insertEntry, h]
    · simp only [insertEntry, h, if_false, List.map_cons, ih, List.mem_cons, false_or]
      split <;> simp

/-- Setting an entry repeats no key. -/
theorem nodup_insertEntry {key : String} {value : α} {entries : List (String × α)}
    (h : (entries.map Prod.fst).Nodup) : ((insertEntry key value entries).map Prod.fst).Nodup := by
  rw [map_fst_insertEntry]
  split
  · exact h
  · rename_i hk
    refine List.nodup_append.2 ⟨h, by simp, ?_⟩
    intro a ha b hb
    rw [List.mem_singleton.1 hb]
    exact fun he ↦ hk (he ▸ ha)

/-- Gives a name a value. -/
def insert (d : Dict α) (key : String) (value : α) : Dict α :=
  ⟨insertEntry key value d.entries, nodup_insertEntry d.nodup⟩

/-- The dictionary of names and values that come in order, a later value replacing an earlier one.
-/
def ofList (entries : List (String × α)) : Dict α :=
  entries.foldl (fun d e ↦ d.insert e.1 e.2) empty

/-- Whether two dictionaries map the same names to the same values, by a test on values. -/
def sameBy (same : α → α → Bool) (d e : Dict α) : Bool :=
  d.size == e.size && d.entries.all fun (key, value) ↦
    match e.get? key with
    | some other => same value other
    | none => false

/-! ### What each operation does -/

@[simp] theorem keys_empty : (empty : Dict α).keys = [] := rfl

@[simp] theorem get?_empty (key : String) : (empty : Dict α).get? key = none := rfl

/-- No key is there twice. -/
theorem keys_nodup (d : Dict α) : d.keys.Nodup := d.nodup

/-- Setting a key adds it at the end if it is new. -/
theorem keys_insert (d : Dict α) (key : String) (value : α) :
    (d.insert key value).keys = if key ∈ d.keys then d.keys else d.keys ++ [key] :=
  map_fst_insertEntry key value d.entries

theorem lookup_entry (key : String) (e : String × α) (entries : List (String × α)) :
    (e :: entries).lookup key = if key = e.1 then some e.2 else entries.lookup key := by
  rw [List.lookup_cons]
  by_cases h : key = e.1
  · rw [if_pos h, beq_iff_eq.2 h]
  · rw [if_neg h, beq_eq_false_iff_ne.2 h]

/-- Looking up the key that was set gives its value, and any other what it gave before. -/
theorem lookup_insertEntry (key k : String) (value : α) (entries : List (String × α)) :
    (insertEntry key value entries).lookup k =
      if k = key then some value else entries.lookup k := by
  induction entries with
  | nil => rw [insertEntry, lookup_entry]
  | cons e entries ih =>
    rw [insertEntry]
    by_cases h : key = e.1
    · rw [if_pos h, lookup_entry, lookup_entry, ← h]
      split <;> rfl
    · rw [if_neg h, lookup_entry, lookup_entry, ih]
      by_cases hk : k = e.1
      · rw [if_pos hk, if_pos hk, if_neg fun he ↦ h (he.symm.trans hk)]
      · rw [if_neg hk, if_neg hk]

/-- Setting a key changes what is found under that key alone. -/
theorem get?_insert (d : Dict α) (key k : String) (value : α) :
    (d.insert key value).get? k = if k = key then some value else d.get? k :=
  lookup_insertEntry key k value d.entries

/-- What is found under a key is what stands beside it. -/
theorem get?_eq_some_iff {d : Dict α} {key : String} {value : α} :
    d.get? key = some value ↔ (key, value) ∈ d.entries := by
  obtain ⟨entries, nodup⟩ := d
  simp only [get?]
  induction entries with
  | nil => simp
  | cons e entries ih =>
    simp only [List.map_cons, List.nodup_cons] at nodup
    rw [lookup_entry, List.mem_cons]
    by_cases h : key = e.1
    · rw [if_pos h, Option.some.injEq]
      refine ⟨fun hv ↦ Or.inl (by rw [h, ← hv]), ?_⟩
      rintro (he | hm)
      · rw [← he]
      · exact absurd (h ▸ List.mem_map_of_mem hm) nodup.1
    · rw [if_neg h, ih nodup.2]
      refine ⟨Or.inr, ?_⟩
      rintro (he | hm)
      · exact absurd (by rw [← he]) h
      · exact hm

/-- The keys that a dictionary contains are its keys. -/
theorem contains_iff {d : Dict α} {key : String} : d.contains key = true ↔ key ∈ d.keys := by
  simp only [contains, Option.isSome_iff_exists, get?_eq_some_iff, keys, List.mem_map]
  exact ⟨fun ⟨v, h⟩ ↦ ⟨(key, v), h, rfl⟩, fun ⟨e, h, he⟩ ↦ ⟨e.2, by simpa [← he] using h⟩⟩

end Dict

end GraphQLCheck
