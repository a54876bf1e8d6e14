import GraphQLCheck.Dict
import Mathlib.Data.List.Induction
import Mathlib.Data.List.Nodup
import Mathlib.Data.List.Perm.Subperm

/-!
# Dictionaries of named things

Most dictionaries of a schema hold things that have a name of their own, and each of them stands
under that name (`Dict.ByName`). Then the names of the values are the names of the dictionary
(`ByName.map_values`), and a value is what its own name is looked up to (`ByName.get?_of_mem`).

Inserting a new name adds one value at the end (`values_insert`), which is what the order of a
schema's types rests on. A dictionary that is made of a list has the names in the order of their
first mention (`keys_ofList`), each with the last value that comes for it (`get?_ofList`), so that
nothing of the list is lost exactly when no name comes twice (`entries_ofList_eq_iff`). Where the
order does not matter, two dictionaries are told apart by what they map the names to
(`perm_entries_iff`).
-/

namespace GraphQLCheck.Dict

variable {α : Type} {d : Dict α}

/-- The values are exactly what some name is looked up to. -/
theorem mem_values_iff {value : α} : value ∈ d.values ↔ ∃ key, d.get? key = some value := by
  simp only [get?_eq_some_iff, values, List.mem_map]
  constructor
  · rintro ⟨e, he, rfl⟩
    exact ⟨e.1, he⟩
  · rintro ⟨key, h⟩
    exact ⟨(key, value), h, rfl⟩

/-- What is found under a key is one of the values. -/
theorem mem_values_of_get? {key : String} {value : α} (h : d.get? key = some value) :
    value ∈ d.values :=
  mem_values_iff.2 ⟨key, h⟩

/-- A key is one under which something is found. -/
theorem mem_keys_iff {key : String} : key ∈ d.keys ↔ ∃ value, d.get? key = some value := by
  rw [← contains_iff, contains, Option.isSome_iff_exists]

/-- Nothing is found under what is no key. -/
theorem get?_eq_none_iff {key : String} : d.get? key = none ↔ key ∉ d.keys := by
  rw [← contains_iff, contains, Bool.not_eq_true, Option.isSome_eq_false_iff,
    Option.isNone_iff_eq_none]

theorem contains_of_get? {key : String} {value : α} (h : d.get? key = some value) :
    d.contains key = true := by
  rw [contains, h]
  rfl

theorem not_contains_of_get? {key : String} (h : d.get? key = none) : d.contains key = false := by
  rw [contains, h]
  rfl

theorem insertEntry_of_not_mem {key : String} {value : α} :
    ∀ {entries : List (String × α)}, key ∉ entries.map Prod.fst →
      insertEntry key value entries = entries ++ [(key, value)]
  | [], _ => rfl
  | e :: entries, h => by
    rw [List.map_cons, List.mem_cons, not_or] at h
    rw [insertEntry, if_neg h.1, insertEntry_of_not_mem h.2, List.cons_append]

/-- A new name goes to the end. -/
theorem entries_insert {key : String} (h : d.get? key = none) (value : α) :
    (d.insert key value).entries = d.entries ++ [(key, value)] :=
  insertEntry_of_not_mem (get?_eq_none_iff.1 h)

/-- The value of a new key comes last. -/
theorem values_insert {key : String} (h : d.get? key = none) (value : α) :
    (d.insert key value).values = d.values ++ [value] := by
  rw [values, entries_insert h, List.map_append]
  rfl

theorem contains_insert (d : Dict α) (key k : String) (value : α) :
    (d.insert key value).contains k = (d.contains k || k == key) := by
  rw [contains, get?_insert]
  by_cases h : k = key
  · simp [h]
  · simp [h, contains]

/-! ### Changing the values -/

section Map

variable {β : Type}

/-- The dictionary with each value changed in its place. -/
def map (f : α → β) (d : Dict α) : Dict β :=
  ⟨d.entries.map fun e ↦ (e.1, f e.2), by simpa [Function.comp_def] using d.nodup⟩

/-- The values are changed one by one. -/
theorem values_map (f : α → β) (d : Dict α) : (d.map f).values = d.values.map f := by
  simp [values, map, Function.comp_def]

/-- Looking up a key finds the changed value. -/
theorem get?_map (f : α → β) (d : Dict α) (key : String) :
    (d.map f).get? key = (d.get? key).map f := by
  obtain ⟨entries, nodup⟩ := d
  simp only [get?, map]
  clear nodup
  induction entries with
  | nil => rfl
  | cons e entries ih =>
    rw [List.map_cons, lookup_entry, lookup_entry, ih]
    split <;> rfl

theorem insertEntry_map (f : α → β) (key : String) (value : α) (entries : List (String × α)) :
    (insertEntry key value entries).map (fun e ↦ (e.1, f e.2)) =
      insertEntry key (f value) (entries.map fun e ↦ (e.1, f e.2)) := by
  induction entries with
  | nil => rfl
  | cons e entries ih =>
    rw [List.map_cons, insertEntry, insertEntry]
    split
    · rfl
    · rw [List.map_cons, ih]

/-- It makes no difference whether a value is changed before it is set or after. -/
theorem map_insert (f : α → β) (d : Dict α) (key : String) (value : α) :
    (d.insert key value).map f = (d.map f).insert key (f value) := by
  simp only [map, insert, insertEntry_map]

end Map

/-! ### Dictionaries from lists -/

theorem ofList_concat (entries : List (String × α)) (e : String × α) :
    ofList (entries ++ [e]) = (ofList entries).insert e.1 e.2 :=
  List.foldl_concat ..

/-- One more name is one more first occurrence, unless the name has occurred. -/
theorem eraseDups_concat (names : List String) (name : String) :
    (names ++ [name]).eraseDups =
      if name ∈ names then names.eraseDups else names.eraseDups ++ [name] := by
  rw [List.eraseDups_append]
  split <;> rename_i h <;> simp [List.removeAll, h, List.eraseDups_cons]

/-- The names come in the order in which they are first mentioned. -/
theorem keys_ofList (entries : List (String × α)) :
    (ofList entries).keys = (entries.map Prod.fst).eraseDups := by
  induction entries using List.reverseRecOn with
  | nil => rfl
  | append_singleton entries e ih =>
    rw [ofList_concat, keys_insert, ih, List.map_append, List.map_singleton, eraseDups_concat]
    simp only [List.mem_eraseDups]

/-- Of the values that come for a name, the last one stays. -/
theorem get?_ofList (entries : List (String × α)) (key : String) :
    (ofList entries).get? key = ((entries.filter (·.1 == key)).getLast?).map Prod.snd := by
  induction entries using List.reverseRecOn with
  | nil => rfl
  | append_singleton entries e ih =>
    rw [ofList_concat, get?_insert, ih, List.filter_append]
    by_cases h : key = e.1
    · simp [h]
    · simp [h, Ne.symm h]

/-- All values of a dictionary that is made of a list come from the list. -/
theorem exists_of_mem_values_ofList {entries : List (String × α)} {value : α}
    (h : value ∈ (ofList entries).values) : ∃ e ∈ entries, e.2 = value := by
  obtain ⟨key, hkey⟩ := mem_values_iff.1 h
  rw [get?_ofList] at hkey
  obtain ⟨e, he, hvalue⟩ := Option.map_eq_some_iff.1 hkey
  exact ⟨e, (List.mem_filter.1 (List.mem_of_getLast? he)).1, hvalue⟩

/-- A dictionary is told by its entries. -/
theorem entries_inj {e : Dict α} : d.entries = e.entries ↔ d = e := by
  obtain ⟨entries, _⟩ := d
  obtain ⟨entries', _⟩ := e
  simp

/-- Entries with different names are the entries of their dictionary. -/
theorem entries_ofList_of_nodup {entries : List (String × α)}
    (h : (entries.map Prod.fst).Nodup) : (ofList entries).entries = entries := by
  induction entries using List.reverseRecOn with
  | nil => rfl
  | append_singleton entries e ih =>
    rw [List.map_append, List.nodup_append] at h
    obtain ⟨hnodup, -, hdisjoint⟩ := h
    have hnew : (ofList entries).get? e.1 = none := by
      rw [get?_eq_none_iff, keys_ofList, List.mem_eraseDups]
      exact fun hmem ↦ hdisjoint _ hmem _ List.mem_cons_self rfl
    rw [ofList_concat, entries_insert hnew, ih hnodup]

/-- A list of entries loses nothing exactly when its names are different. -/
theorem entries_ofList_eq_iff {entries : List (String × α)} :
    (ofList entries).entries = entries ↔ (entries.map Prod.fst).Nodup :=
  ⟨fun h ↦ h ▸ (ofList entries).nodup, entries_ofList_of_nodup⟩

/-- Things that are put under their names are all there exactly when the names are different. -/
theorem entries_ofList_map_eq_iff {δ : Type} {name : δ → String} {f : δ → α} {l : List δ} :
    (ofList (l.map fun a ↦ (name a, f a))).entries = l.map (fun a ↦ (name a, f a)) ↔
      (l.map name).Nodup := by
  rw [entries_ofList_eq_iff, List.map_map]
  rfl

theorem ofList_entries (d : Dict α) : ofList d.entries = d :=
  entries_inj.1 (entries_ofList_of_nodup d.nodup)

theorem map_ofList {β : Type} (f : α → β) (entries : List (String × α)) :
    (ofList entries).map f = ofList (entries.map fun e ↦ (e.1, f e.2)) := by
  induction entries using List.reverseRecOn with
  | nil => rfl
  | append_singleton entries e ih =>
    rw [ofList_concat, map_insert, ih, List.map_append]
    exact (ofList_concat _ (e.1, f e.2)).symm

/-- The values are what is found under the keys, in their order. -/
theorem values_eq_filterMap (d : Dict α) : d.values = d.keys.filterMap d.get? := by
  rw [values, keys, List.filterMap_map, ← List.filterMap_eq_map]
  refine List.filterMap_congr fun e he ↦ ?_
  exact (get?_eq_some_iff.2 he).symm

/-! ### Dictionaries in another order -/

variable {e : Dict α}

theorem nodup_entries (d : Dict α) : d.entries.Nodup := d.nodup.of_map Prod.fst

/-- Two dictionaries have the same entries, in whatever order, exactly when every name is looked up
to the same in both. -/
theorem perm_entries_iff : d.entries.Perm e.entries ↔ ∀ key, d.get? key = e.get? key := by
  rw [List.perm_ext_iff_of_nodup d.nodup_entries e.nodup_entries]
  constructor
  · intro h key
    refine Option.ext fun value ↦ ?_
    rw [get?_eq_some_iff, get?_eq_some_iff]
    exact h (key, value)
  · rintro h ⟨key, value⟩
    rw [← get?_eq_some_iff, ← get?_eq_some_iff, h]

/-- Dictionaries that map the same names to the same values pass every test that a value passes with
itself. -/
theorem sameBy_of_get?_eq {same : α → α → Bool} (hrefl : ∀ a, same a a = true)
    (h : ∀ key, d.get? key = e.get? key) : d.sameBy same e = true := by
  have hsize : d.size = e.size := (perm_entries_iff.2 h).length_eq
  rw [sameBy, hsize, beq_self_eq_true, Bool.true_and, List.all_eq_true]
  rintro ⟨key, value⟩ hmem
  have hget : e.get? key = some value := h key ▸ get?_eq_some_iff.2 hmem
  simp only [hget, hrefl]

/-- Dictionaries pass a test on values when they have the same names, in whatever order, and each
name is looked up to values that pass it. -/
theorem sameBy_of_keys_perm {same : α → α → Bool} (hkeys : d.keys.Perm e.keys)
    (h : ∀ key b, e.get? key = some b → ∃ a, d.get? key = some a ∧ same a b = true) :
    d.sameBy same e = true := by
  have hsize : d.size = e.size := by
    simpa only [keys, size, List.length_map] using hkeys.length_eq
  rw [sameBy, hsize, beq_self_eq_true, Bool.true_and, List.all_eq_true]
  rintro ⟨key, value⟩ hmem
  have hkey : key ∈ e.keys := hkeys.mem_iff.1 (List.mem_map_of_mem hmem)
  obtain ⟨b, hb⟩ := mem_keys_iff.1 hkey
  obtain ⟨a, ha, hsame⟩ := h key b hb
  rw [get?_eq_some_iff.2 hmem] at ha
  simp only [hb, Option.some.inj ha, hsame]

/-- Dictionaries pass a test on values exactly when they have the same names, in whatever order, and
the values under each name pass it. -/
theorem sameBy_iff {same : α → α → Bool} : d.sameBy same e = true ↔
    d.keys.Perm e.keys ∧
      ∀ key a b, d.get? key = some a → e.get? key = some b → same a b = true := by
  constructor
  · intro h
    rw [sameBy, Bool.and_eq_true, beq_iff_eq, List.all_eq_true] at h
    obtain ⟨hsize, hall⟩ := h
    have hfound : ∀ key a, d.get? key = some a → ∃ b, e.get? key = some b ∧ same a b = true := by
      intro key a ha
      have hentry := hall (key, a) (get?_eq_some_iff.1 ha)
      rcases hb : e.get? key with - | b
      · simp [hb] at hentry
      · exact ⟨b, rfl, by simpa [hb] using hentry⟩
    refine ⟨?_, fun key a b ha hb ↦ ?_⟩
    · have hsub : d.keys ⊆ e.keys := fun key hkey ↦ by
        obtain ⟨a, ha⟩ := mem_keys_iff.1 hkey
        obtain ⟨b, hb, -⟩ := hfound key a ha
        exact mem_keys_iff.2 ⟨b, hb⟩
      -- there are no names beside those that are found
      have hlength : e.keys.length ≤ d.keys.length := by
        simpa only [keys, size, List.length_map] using Nat.le_of_eq hsize.symm
      exact (List.subperm_of_subset d.keys_nodup hsub).perm_of_length_le hlength
    · obtain ⟨b', hb', hsame⟩ := hfound key a ha
      rwa [Option.some.inj (hb.symm.trans hb')]
  · rintro ⟨hkeys, hvalues⟩
    refine sameBy_of_keys_perm hkeys fun key b hb ↦ ?_
    obtain ⟨a, ha⟩ := mem_keys_iff.1 (hkeys.mem_iff.2 (mem_keys_iff.2 ⟨b, hb⟩))
    exact ⟨a, ha, hvalues key a b ha hb⟩

/-- Dictionaries have equal values under the same names exactly when they look up the same. -/
theorem sameBy_beq_iff [BEq α] [LawfulBEq α] :
    d.sameBy (· == ·) e = true ↔ ∀ key, d.get? key = e.get? key := by
  refine ⟨fun h key ↦ ?_, sameBy_of_get?_eq beq_self_eq_true⟩
  obtain ⟨hkeys, hvalues⟩ := sameBy_iff.1 h
  rcases ha : d.get? key with - | a
  · rw [get?_eq_none_iff, hkeys.mem_iff] at ha
    exact (get?_eq_none_iff.2 ha).symm
  · obtain ⟨b, hb⟩ := mem_keys_iff.1 (hkeys.mem_iff.1 (mem_keys_iff.2 ⟨a, ha⟩))
    rw [hb, beq_iff_eq.1 (hvalues key a b ha hb)]

/-- A dictionary is the same as itself by every comparison that is reflexive. -/
theorem sameBy_self {same : α → α → Bool} (hrefl : ∀ a, same a a = true) (d : Dict α) :
    d.sameBy same d = true :=
  sameBy_of_get?_eq hrefl fun _ ↦ rfl

theorem sameBy_beq_self {β : Type} [BEq β] [ReflBEq β] (f : α → β) (d : Dict α) :
    d.sameBy (fun a b ↦ f a == f b) d = true := by
  refine sameBy_self (fun a ↦ ?_) d
  exact beq_self_eq_true (f a)

/-! ### Things under their own names -/

/-- Every value stands under its own name. -/
def ByName (name : α → String) (d : Dict α) : Prop := ∀ e ∈ d.entries, name e.2 = e.1

namespace ByName

variable {name : α → String}

theorem empty : ByName name (Dict.empty : Dict α) := fun _ he ↦ absurd he List.not_mem_nil

theorem name_of_get? (h : ByName name d) {key : String} {value : α}
    (hv : d.get? key = some value) : name value = key :=
  h (key, value) (get?_eq_some_iff.1 hv)

/-- A value is what its own name is looked up to. -/
theorem get?_of_mem (h : ByName name d) {value : α} (hv : value ∈ d.values) :
    d.get? (name value) = some value := by
  obtain ⟨key, hkey⟩ := mem_values_iff.1 hv
  rw [h.name_of_get? hkey, hkey]

/-- Values of one name are one value. -/
theorem eq_of_name_eq (h : ByName name d) {v w : α} (hv : v ∈ d.values) (hw : w ∈ d.values)
    (heq : name v = name w) : v = w := by
  have hget := h.get?_of_mem hv
  rw [heq, h.get?_of_mem hw] at hget
  exact (Option.some.inj hget).symm

/-- The names of the values are the names of the dictionary, in order. -/
theorem map_values (h : ByName name d) : d.values.map name = d.keys := by
  rw [values, keys, List.map_map]
  exact List.map_congr_left h

theorem insert (h : ByName name d) {key : String} {value : α} (hv : name value = key) :
    ByName name (d.insert key value) := by
  rintro ⟨k, v⟩ he
  have hk : (d.insert key value).get? k = some v := get?_eq_some_iff.2 he
  rw [get?_insert] at hk
  split at hk
  · rename_i heq
    rw [heq, ← Option.some.inj hk]
    exact hv
  · exact h.name_of_get? hk

/-- Entries that each carry their own name give a dictionary of named things. -/
theorem ofList {entries : List (String × α)} (h : ∀ e ∈ entries, name e.2 = e.1) :
    ByName name (Dict.ofList entries) := by
  have key : ∀ (entries : List (String × α)) (d : Dict α), (∀ e ∈ entries, name e.2 = e.1) →
      ByName name d → ByName name (entries.foldl (fun d e ↦ d.insert e.1 e.2) d) := by
    intro entries
    induction entries with
    | nil => exact fun d _ hd ↦ hd
    | cons e entries ih =>
      intro d he hd
      exact ih _ (fun e' he' ↦ he e' (List.mem_cons_of_mem e he'))
        (hd.insert (he e List.mem_cons_self))
  exact key entries Dict.empty h empty

end ByName

end GraphQLCheck.Dict
