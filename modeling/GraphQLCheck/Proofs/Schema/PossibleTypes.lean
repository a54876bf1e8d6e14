import GraphQLCheck.Proofs.Dict
import GraphQLCheck.Schema.Build
import Mathlib.Data.List.Basic

/-!
# The index of possible types

The index is made in one pass over the types, in which an object appends to the lists of the
interfaces that it declares and a union sets its own list. What the pass does to the list of one
name is said by one step (`listAt_indexType`): a union of that name sets it, and every other type
appends what it **offers** to the name, which for an object is its own name as often as it declares
the interface and for anything else is nothing.

So there are two outcomes of the whole pass. The list of a name that is not a union's is all that
the types offer to it, in order (`listAt_possibleTypes`). The list of a union is what its members
are (`listAt_possibleTypes_union`), provided that no object declares to implement the union; an
object that comes later would append to it. Which names are in the index does not depend on the
order of the types (`contains_possibleTypes`).
-/

namespace GraphQLCheck

/-- The list of a name in an index. -/
def Dict.listAt (index : Dict (List String)) (name : String) : List String :=
  (index.get? name).getD []

/-- A name that is in both of two indexes or in neither, with the same list, is looked up to the
same in both. -/
theorem Dict.get?_eq_of_listAt {index index' : Dict (List String)} {name : String}
    (hcontains : index.contains name = index'.contains name)
    (hlist : index.listAt name = index'.listAt name) : index.get? name = index'.get? name := by
  rw [contains, contains] at hcontains
  rw [listAt, listAt] at hlist
  rcases hget : index.get? name <;> rcases hget' : index'.get? name <;> simp_all

/-- What a type offers to the interface of a name: an object offers itself, once for each time that
it declares the interface. -/
def NamedType.offers (name : String) (t : NamedType) : List String :=
  if t.kind = .object then List.replicate (t.interfaceNames.count name) t.name else []

theorem NamedType.mem_offers_iff {name object : String} {t : NamedType} :
    object ∈ t.offers name ↔ t.kind = .object ∧ name ∈ t.interfaceNames ∧ object = t.name := by
  rw [offers]
  by_cases h : t.kind = .object
  · rw [if_pos h, List.mem_replicate, ← Nat.pos_iff_ne_zero, List.count_pos_iff]
    exact ⟨fun hmem ↦ ⟨h, hmem⟩, fun hmem ↦ hmem.2⟩
  · rw [if_neg h]
    exact ⟨fun hmem ↦ absurd hmem List.not_mem_nil, fun hmem ↦ absurd hmem.1 h⟩

theorem NamedType.count_offers (name object : String) (t : NamedType) :
    (t.offers name).count object =
      if t.kind = .object ∧ t.name = object then t.interfaceNames.count name else 0 := by
  rw [offers]
  by_cases h : t.kind = .object
  · simp [h, List.count_replicate]
  · simp [h]

/-! ### One step -/

theorem listAt_addPossible (object interface name : String) (index : Dict (List String)) :
    (addPossible object index interface).listAt name =
      index.listAt name ++ if name = interface then [object] else [] := by
  rw [addPossible, Dict.listAt, Dict.get?_insert]
  by_cases h : name = interface
  · rw [if_pos h, if_pos h, h]
    rfl
  · rw [if_neg h, if_neg h, List.append_nil]
    rfl

/-- An object appends itself to a list as often as the name is among those that it declares. -/
theorem listAt_foldl_addPossible (object name : String) (interfaces : List String)
    (index : Dict (List String)) :
    (interfaces.foldl (addPossible object) index).listAt name =
      index.listAt name ++ List.replicate (interfaces.count name) object := by
  induction interfaces generalizing index with
  | nil => simp
  | cons interface interfaces ih =>
    rw [List.foldl_cons, ih, listAt_addPossible, List.append_assoc]
    congr 1
    by_cases h : name = interface
    · rw [if_pos h, h, List.count_cons_self, List.replicate_succ]
      rfl
    · rw [if_neg h, List.count_cons_of_ne (Ne.symm h), List.nil_append]

/-- **One step.** A union of the name sets the list; every other type appends what it offers. -/
theorem listAt_indexType (index : Dict (List String)) (t : NamedType) (name : String) :
    (indexType index t).listAt name =
      if t.kind = .union ∧ t.name = name then t.memberNames
      else index.listAt name ++ t.offers name := by
  rw [indexType, NamedType.offers, NamedType.kind]
  rcases t.shape with _ | _ | _ | ⟨fields, interfaces⟩ | _ | members
  case object => simp [listAt_foldl_addPossible]
  case union =>
    rw [Dict.listAt, Dict.get?_insert]
    by_cases h : name = t.name
    · simp [h]
    · simp [h, Ne.symm h, Dict.listAt]
  all_goals simp

/-! ### The whole pass -/

/-- Without a union of the name, the pass appends all that is offered. -/
theorem listAt_foldl_indexType {name : String} {l : List NamedType}
    (h : ∀ t ∈ l, t.name = name → t.kind ≠ .union) (index : Dict (List String)) :
    (l.foldl indexType index).listAt name =
      index.listAt name ++ l.flatMap (NamedType.offers name) := by
  induction l generalizing index with
  | nil => simp
  | cons t l ih =>
    have ht : ¬ (t.kind = .union ∧ t.name = name) := fun ⟨hkind, hname⟩ ↦
      h t List.mem_cons_self hname hkind
    rw [List.foldl_cons, ih fun u hu ↦ h u (List.mem_cons_of_mem t hu), listAt_indexType,
      if_neg ht, List.flatMap_cons, List.append_assoc]

/-- With a union of the name and nothing offered to it, the pass leaves what the union sets. -/
theorem listAt_foldl_indexType_union {u : NamedType} {l : List NamedType} (hu : u ∈ l)
    (hkind : u.kind = .union) (hnodup : (l.map NamedType.name).Nodup)
    (hoffers : ∀ t ∈ l, t.offers u.name = []) (index : Dict (List String)) :
    (l.foldl indexType index).listAt u.name = u.memberNames := by
  induction l generalizing index with
  | nil => exact absurd hu List.not_mem_nil
  | cons t l ih =>
    rw [List.map_cons, List.nodup_cons] at hnodup
    have hrest : ∀ t' ∈ l, t'.offers u.name = [] := fun t' ht' ↦
      hoffers t' (List.mem_cons_of_mem t ht')
    rw [List.foldl_cons]
    rcases List.mem_cons.1 hu with rfl | hu
    · -- no later type has the name, so all of them append, and they append nothing
      have hlater : ∀ t ∈ l, t.name = u.name → t.kind ≠ .union := fun t ht hname ↦
        absurd (hname ▸ List.mem_map_of_mem ht) hnodup.1
      rw [listAt_foldl_indexType hlater, listAt_indexType, if_pos ⟨hkind, rfl⟩,
        List.flatMap_eq_nil_iff.2 hrest, List.append_nil]
    · exact ih hu hnodup.2 hrest _

/-! ### Which names are in the index -/

/-- Whether a type puts a name into the index: a union does so with its own name, and an object with
the names of the interfaces that it declares. -/
def NamedType.indexes (name : String) (t : NamedType) : Bool :=
  match t.kind with
  | .object => t.interfaceNames.contains name
  | .union => name == t.name
  | _ => false

theorem contains_foldl_addPossible (object name : String) (interfaces : List String)
    (index : Dict (List String)) :
    (interfaces.foldl (addPossible object) index).contains name =
      (index.contains name || interfaces.contains name) := by
  induction interfaces generalizing index with
  | nil => simp
  | cons interface interfaces ih =>
    rw [List.foldl_cons, ih, addPossible, Dict.contains_insert, List.contains_cons, Bool.or_assoc]

theorem contains_indexType (index : Dict (List String)) (t : NamedType) (name : String) :
    (indexType index t).contains name = (index.contains name || t.indexes name) := by
  rw [indexType, NamedType.indexes, NamedType.kind]
  rcases t.shape with _ | _ | _ | ⟨fields, interfaces⟩ | _ | members
  case object => exact contains_foldl_addPossible t.name name t.interfaceNames index
  case union => exact Dict.contains_insert index t.name name t.memberNames
  all_goals exact (Bool.or_false _).symm

theorem contains_foldl_indexType (l : List NamedType) (index : Dict (List String))
    (name : String) :
    (l.foldl indexType index).contains name =
      (index.contains name || l.any (NamedType.indexes name)) := by
  induction l generalizing index with
  | nil => simp
  | cons t l ih =>
    rw [List.foldl_cons, ih, contains_indexType, List.any_cons, Bool.or_assoc]

section Index

variable {types : Dict NamedType}

/-- The names in the index are those that some type puts there. -/
theorem contains_possibleTypes (types : Dict NamedType) (name : String) :
    (possibleTypes types).contains name = types.values.any (NamedType.indexes name) :=
  contains_foldl_indexType types.values .empty name

/-- The list of a name that is not a union's. -/
theorem listAt_possibleTypes {name : String}
    (h : ∀ t ∈ types.values, t.name = name → t.kind ≠ .union) :
    (possibleTypes types).listAt name = types.values.flatMap (NamedType.offers name) := by
  rw [possibleTypes, listAt_foldl_indexType h]
  rfl

/-- The list of a union that no object declares to implement. -/
theorem listAt_possibleTypes_union (hnames : types.ByName NamedType.name) {u : NamedType}
    (hu : u ∈ types.values) (hkind : u.kind = .union)
    (h : ∀ t ∈ types.values, t.kind = .object → u.name ∉ t.interfaceNames) :
    (possibleTypes types).listAt u.name = u.memberNames := by
  have hnodup : (types.values.map NamedType.name).Nodup := hnames.map_values ▸ types.keys_nodup
  refine listAt_foldl_indexType_union hu hkind hnodup (fun t ht ↦ ?_) .empty
  rw [NamedType.offers]
  split
  · rename_i hobject
    rw [List.count_eq_zero_of_not_mem (h t ht hobject)]
    rfl
  · rfl

end Index

end GraphQLCheck
