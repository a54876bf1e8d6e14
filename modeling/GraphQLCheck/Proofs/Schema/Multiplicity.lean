import GraphQLCheck.Proofs.Schema.References
import GraphQLCheck.Rule.FieldSelection
import Mathlib.Data.List.Nodup

/-!
# How often a type is listed as possible

The members of a union stand in a dictionary, so a member that is written twice is listed once. The
possible types of an interface are collected entry by entry: an object that declares the interface
twice is listed twice (`Built.count_possibleNames`), and nothing in building a schema keeps an
object from doing so (`possibleNames_repeatedDeclarations`).

So the possible types of a type are without repetition exactly when no object declares it more than
once, and the types that an error suggests are so exactly when that holds of the objects among them
(`nodup_possibleNames_iff`).
-/

namespace GraphQLCheck

theorem NamedType.nodup_memberNames (t : NamedType) : t.memberNames.Nodup := by
  rw [memberNames]
  split
  · exact Dict.keys_nodup _
  · exact List.nodup_nil

/-- Among types of different names, only the type of the name itself counts. -/
theorem count_flatMap_offers {l : List NamedType} (hnodup : (l.map NamedType.name).Nodup)
    {u : NamedType} (hu : u ∈ l) (name : String) :
    (l.flatMap (NamedType.offers name)).count u.name =
      if u.kind = .object then u.interfaceNames.count name else 0 := by
  induction l with
  | nil => exact absurd hu List.not_mem_nil
  | cons t l ih =>
    rw [List.map_cons, List.nodup_cons] at hnodup
    rw [List.flatMap_cons, List.count_append, NamedType.count_offers]
    rcases List.mem_cons.1 hu with rfl | hu
    · -- none of the others has the name, so none of them offers it
      have hrest : u.name ∉ l.flatMap (NamedType.offers name) := by
        intro hmem
        obtain ⟨t, ht, hoffer⟩ := List.mem_flatMap.1 hmem
        have hname : u.name = t.name := (NamedType.mem_offers_iff.1 hoffer).2.2
        exact hnodup.1 (hname ▸ List.mem_map_of_mem ht)
      rw [List.count_eq_zero_of_not_mem hrest]
      simp
    · have hne : t.name ≠ u.name := fun heq ↦ hnodup.1 (heq ▸ List.mem_map_of_mem hu)
      rw [ih hnodup.2 hu, if_neg fun h ↦ hne h.2, Nat.zero_add]

namespace Schema.Built

variable {s : Schema} {t u : NamedType}

/-- An object is among the possible types of an interface as often as it declares it. -/
theorem count_possibleNames (h : s.Built) (ht : t ∈ s.types.values) (hkind : t.kind = .interface)
    (hu : u ∈ s.types.values) : (s.possibleNames t).count u.name =
      if u.kind = .object then u.interfaceNames.count t.name else 0 := by
  have hnodup : (s.types.values.map NamedType.name).Nodup :=
    h.byName.names.map_values ▸ s.types.keys_nodup
  rw [h.possibleNames_of_interface ht hkind]
  exact count_flatMap_offers hnodup hu t.name

/-- The possible types of anything but an interface are without repetition. -/
theorem nodup_possibleNames_of_ne (h : s.Built) (ht : t ∈ s.types.values)
    (hkind : t.kind ≠ .interface) : (s.possibleNames t).Nodup := by
  by_cases hunion : t.kind = .union
  · rw [h.possibleNames_of_union ht hunion]
    exact t.nodup_memberNames
  · have habstract : t.isAbstract = false := by
      rw [NamedType.isAbstract]
      cases hk : t.kind <;> simp_all
    rw [possibleNames, habstract]
    exact List.nodup_nil

/-- What no object declares is not counted among its interfaces. -/
theorem count_interfaceNames_of_ne (h : s.Built) (ht : t ∈ s.types.values)
    (hkind : t.kind ≠ .interface) (hu : u ∈ s.types.values) :
    u.interfaceNames.count t.name = 0 :=
  List.count_eq_zero_of_not_mem (h.name_not_mem_interfaceNames ht hkind hu)

/-- An object that is not among the possible types of a type does not declare it. -/
theorem count_interfaceNames_of_not_mem (h : s.Built) (ht : t ∈ s.types.values)
    (hu : u ∈ s.types.values) (hobject : u.kind = .object) (hmem : u.name ∉ s.possibleNames t) :
    u.interfaceNames.count t.name = 0 := by
  by_cases hkind : t.kind = .interface
  · have hcount := h.count_possibleNames ht hkind hu
    rw [List.count_eq_zero_of_not_mem hmem, if_pos hobject] at hcount
    exact hcount.symm
  · exact h.count_interfaceNames_of_ne ht hkind hu

/-- Whatever possible types are picked out by their names, they are without repetition exactly when
no object among them declares the type more than once. -/
theorem nodup_filter_possibleNames_iff (h : s.Built) (ht : t ∈ s.types.values)
    (p : String → Bool) : ((s.possibleNames t).filter p).Nodup ↔
      ∀ u ∈ s.types.values, u.kind = .object → p u.name = true →
        u.interfaceNames.count t.name ≤ 1 := by
  by_cases hkind : t.kind = .interface
  · rw [List.nodup_iff_count_le_one]
    constructor
    · intro hcount u hu hobject hp
      have hle := hcount u.name
      rwa [List.count_filter hp, h.count_possibleNames ht hkind hu, if_pos hobject] at hle
    · intro hdeclared name
      by_cases hmem : name ∈ (s.possibleNames t).filter p
      · obtain ⟨hpossible, hp⟩ := List.mem_filter.1 hmem
        rw [h.possibleNames_of_interface ht hkind] at hpossible
        obtain ⟨u, hu, hoffer⟩ := List.mem_flatMap.1 hpossible
        obtain ⟨hobject, -, rfl⟩ := NamedType.mem_offers_iff.1 hoffer
        rw [List.count_filter hp, h.count_possibleNames ht hkind hu, if_pos hobject]
        exact hdeclared u hu hobject hp
      · rw [List.count_eq_zero_of_not_mem hmem]
        exact Nat.zero_le 1
  · -- no object declares something that is not an interface
    refine ⟨fun _ u hu _ _ ↦ ?_, fun _ ↦ (h.nodup_possibleNames_of_ne ht hkind).filter p⟩
    rw [h.count_interfaceNames_of_ne ht hkind hu]
    exact Nat.zero_le 1

/-- The suggested owners of a field are those of the possible types that declare it, in order. -/
theorem possibleOwners_eq_filter (h : s.Built) (t : NamedType) (field : String) :
    possibleOwners s t field = (s.possibleNames t).filter fun name ↦
      (s.type? name).any fun u ↦ (u.field? field).isSome := by
  rw [possibleOwners, ← h.map_name_possibleTypes t, List.filter_map]
  congr 1
  refine List.filter_congr fun u hu ↦ ?_
  obtain ⟨name, -, hfound⟩ := List.mem_filterMap.1 hu
  have hname : u.name = name := h.byName.names.name_of_get? hfound
  rw [Function.comp_apply, hname, hfound]
  rfl

end Schema.Built

/-- The error about a field that possible types have lists its possible owners. -/
theorem eq_possibleOwners_of_checkField {s : Schema} {t : NamedType} {name field type : String}
    {types : List String} (h : checkField s t name = some (.onPossibleTypes field type types)) :
    types = possibleOwners s t name := by
  have herror : ∀ similar, fieldError s t name similar = .onPossibleTypes field type types →
      types = possibleOwners s t name := by
    intro similar heq
    rw [fieldError] at heq
    split at heq
    · exact nomatch heq
    · exact (FieldError.onPossibleTypes.inj heq).2.2.symm
  rw [checkField] at h
  split at h
  · exact nomatch h
  · split at h
    · split at h
      · exact nomatch h
      · exact herror _ (Option.some.inj h)
    · split at h
      · exact nomatch h
      · exact herror _ (Option.some.inj h)
    · exact herror _ (Option.some.inj h)
    all_goals exact nomatch h

/-- **Repetition among possible types.** The possible types of a type are without repetition exactly
when no object declares the type more than once; and those that an error suggests are so exactly
when none of the suggested objects does. -/
theorem nodup_possibleNames_iff {s : Schema} (h : s.Built) {t : NamedType}
    (ht : t ∈ s.types.values) :
    ((s.possibleNames t).Nodup ↔
      ∀ u ∈ s.types.values, u.kind = .object → u.interfaceNames.count t.name ≤ 1) ∧
    ∀ {name field type : String} {types : List String},
      checkField s t name = some (.onPossibleTypes field type types) →
        (types.Nodup ↔ ∀ u ∈ s.types.values, u.kind = .object → u.name ∈ types →
          u.interfaceNames.count t.name ≤ 1) := by
  refine ⟨?_, fun {name field type types} herror ↦ ?_⟩
  · simpa using h.nodup_filter_possibleNames_iff ht fun _ ↦ true
  · rw [eq_possibleOwners_of_checkField herror, h.possibleOwners_eq_filter,
      h.nodup_filter_possibleNames_iff ht]
    refine forall₃_congr fun u hu hobject ↦ ⟨fun hle hmem ↦ hle (List.mem_filter.1 hmem).2, ?_⟩
    intro hle hdeclares
    by_cases hmem : u.name ∈ s.possibleNames t
    · exact hle (List.mem_filter.2 ⟨hmem, hdeclares⟩)
    · rw [h.count_interfaceNames_of_not_mem ht hu hobject hmem]
      exact Nat.zero_le 1

/-- A schema with an interface that one type declares twice. -/
def repeatedDeclarations : List Declaration :=
  let field (position : Position) (name type : String) : FieldDecl :=
    ⟨position, none, name, [], .named type⟩
  [.type ⟨⟨1, 1⟩, none, "Query", .object [] [field ⟨1, 14⟩ "node" "Node"]⟩,
    .type ⟨⟨2, 1⟩, none, "Node", .interface [] [field ⟨2, 18⟩ "id" "ID"]⟩,
    .type ⟨⟨3, 1⟩, none, "User", .object ["Node", "Node"]
      [field ⟨3, 36⟩ "id" "ID", field ⟨3, 43⟩ "name" "String"]⟩]

theorem nodup_possibleNames_petDeclarations : ∃ s : Schema, s.Built ∧ ∃ t ∈ s.types.values,
    t.kind = .interface ∧ (s.possibleNames t).Nodup ∧ s.possibleNames t = ["Cat", "Dog"] := by
  have h : ∃ s : Schema, ∃ d : Draft, Draft.empty.load none petDeclarations = .ok d ∧
      d.build = .ok s ∧ ∃ t ∈ s.types.values, t.kind = .interface ∧
        s.possibleNames t = ["Cat", "Dog"] ∧
        ∀ u ∈ s.types.values, u.kind = .object → u.interfaceNames.count t.name ≤ 1 :=
    ⟨_, _, rfl, rfl, by decide +kernel⟩
  obtain ⟨s, d, hd, hs, t, ht, hkind, hnames, hdeclared⟩ := h
  have hbuilt : s.Built := ⟨d, .load none petDeclarations .empty hd, hs⟩
  exact ⟨s, hbuilt, t, ht, hkind, (nodup_possibleNames_iff hbuilt ht).1.2 hdeclared, hnames⟩

/-- A built schema can list a possible type twice, and an error can then suggest it twice. -/
theorem possibleNames_repeatedDeclarations : ∃ s : Schema, s.Built ∧ ∃ t ∈ s.types.values,
    t.kind = .interface ∧ s.possibleNames t = ["User", "User"] ∧
    ¬ (s.possibleNames t).Nodup ∧
    checkField s t "name" = some (.onPossibleTypes "name" "Node" ["User", "User"]) := by
  have h : ∃ s : Schema, ∃ d : Draft, Draft.empty.load none repeatedDeclarations = .ok d ∧
      d.build = .ok s ∧ ∃ t ∈ s.types.values, t.kind = .interface ∧
        s.possibleNames t = ["User", "User"] ∧ ¬ (s.possibleNames t).Nodup ∧
        checkField s t "name" = some (.onPossibleTypes "name" "Node" ["User", "User"]) :=
    ⟨_, _, rfl, rfl, by decide +kernel⟩
  obtain ⟨s, d, hd, hs, ht⟩ := h
  exact ⟨s, ⟨d, .load none repeatedDeclarations .empty hd, hs⟩, ht⟩

end GraphQLCheck
