import GraphQLCheck.Proofs.Dict
import GraphQLCheck.Schema.Build

/-!
# What building sees of the types

Building looks types up by their names, and of an input object it sees that it is one and nothing of
what it holds. A type as building sees it is **bare** (`NamedType.bare`): an input object has lost
its fields, and every other type is as it was.

Types look alike when every name leads to types that are the same once they are bare (`LookAlike`).
Then the same is wrong with a type (`LookAlike.violations_eq`) and the same root types are found
(`LookAlike.resolveRoot_eq`), whatever the order of the types. The index of possible types goes
through the types in order, and it comes to the same for the bare ones
(`possibleTypes_eq_foldl_bare`).
-/

namespace GraphQLCheck

/-! ### Bare types -/

namespace NamedType

variable {t t' : NamedType}

/-- The type without the fields of an input object. -/
def bare (t : NamedType) : NamedType :=
  match t.shape with
  | .input _ => { t with shape := .input .empty }
  | _ => t

@[simp] theorem name_bare (t : NamedType) : t.bare.name = t.name := by
  rw [bare]
  split <;> rfl

@[simp] theorem location_bare (t : NamedType) : t.bare.location = t.location := by
  rw [bare]
  split <;> rfl

@[simp] theorem kind_bare (t : NamedType) : t.bare.kind = t.kind := by
  rw [bare]
  split
  · rename_i hshape
    rw [kind, kind, hshape]
  · rfl

/-- Only input objects lose anything. -/
theorem bare_of_ne (h : t.kind ≠ .inputObject) : t.bare = t := by
  rw [bare]
  split
  · rename_i hshape
    exact absurd (by rw [kind, hshape]) h
  · rfl

/-- A type of that kind has the fields of an input object. -/
theorem exists_input_of_kind (h : t.kind = .inputObject) : ∃ fields, t.shape = .input fields := by
  rw [kind] at h
  split at h
  case h_2 fields hshape => exact ⟨fields, hshape⟩
  all_goals exact nomatch h

/-- Types that are the same when bare have one name. -/
theorem name_of_bare_eq (h : t.bare = t'.bare) : t.name = t'.name := by
  rw [← name_bare t, h, name_bare]

/-- Types that are the same when bare are of one kind. -/
theorem kind_of_bare_eq (h : t.bare = t'.bare) : t.kind = t'.kind := by
  rw [← kind_bare t, h, kind_bare]

/-- Types that are the same when bare are declared in one place. -/
theorem location_of_bare_eq (h : t.bare = t'.bare) : t.location = t'.location := by
  rw [← location_bare t, h, location_bare]

/-- Types that are the same bare are input objects, or the same. -/
theorem eq_of_bare_eq (h : t.bare = t'.bare) (hkind : t.kind ≠ .inputObject) : t = t' := by
  have hkind' : t'.kind ≠ .inputObject := kind_of_bare_eq h ▸ hkind
  rw [← bare_of_ne hkind, h, bare_of_ne hkind']

end NamedType

/-! ### Types that look alike -/

/-- Every name leads to types that are the same bare, or to none. -/
def LookAlike (types types' : Dict NamedType) : Prop :=
  ∀ name, (types.get? name).map NamedType.bare = (types'.get? name).map NamedType.bare

namespace LookAlike

variable {types types' : Dict NamedType}

/-- Dictionaries that find the same types look alike. -/
theorem of_get?_eq (h : types.get? = types'.get?) : LookAlike types types' := fun name ↦ by rw [h]

/-- A name that is looked up leads to nothing in both, or to two types that are the same bare. -/
theorem cases (h : LookAlike types types') (name : String) :
    types.get? name = none ∧ types'.get? name = none ∨
      ∃ t t', types.get? name = some t ∧ types'.get? name = some t' ∧ t.bare = t'.bare := by
  have hname := h name
  rcases ht : types.get? name with - | t <;> rcases ht' : types'.get? name with - | t' <;>
    rw [ht, ht'] at hname
  · exact Or.inl ⟨rfl, rfl⟩
  · exact nomatch hname
  · exact nomatch hname
  · exact Or.inr ⟨t, t', rfl, rfl, Option.some.inj hname⟩

variable (h : LookAlike types types')
include h

/-- A parameter is checked alike. -/
theorem parameter_violations_eq : Parameter.violations types = Parameter.violations types' := by
  funext p
  rw [Parameter.violations, Parameter.violations]
  rcases h.cases p.annotation.innermost.name with ⟨ht, ht'⟩ | ⟨t, t', ht, ht', hbare⟩
  · simp only [ht, ht']
  · have hinput : t.isInput = t'.isInput := by
      rw [NamedType.isInput, NamedType.isInput, NamedType.kind_of_bare_eq hbare]
    simp only [ht, ht', hinput]

/-- A field is checked alike. -/
theorem field_violations_eq : Field.violations types = Field.violations types' := by
  funext parent f
  rw [Field.violations, Field.violations, h.parameter_violations_eq, Field.outputViolations,
    Field.outputViolations]
  rcases h.cases f.annotation.innermost.name with ⟨ht, ht'⟩ | ⟨t, t', ht, ht', hbare⟩
  · simp only [ht, ht']
  · have houtput : t.isOutput = t'.isOutput := by
      rw [NamedType.isOutput, NamedType.isOutput, NamedType.kind_of_bare_eq hbare]
    simp only [ht, ht', houtput]

/-- An implemented interface is checked alike. -/
theorem interfaceViolations_eq :
    NamedType.interfaceViolations types = NamedType.interfaceViolations types' := by
  funext owner fields ref
  rw [NamedType.interfaceViolations, NamedType.interfaceViolations]
  rcases h.cases ref.name with ⟨ht, ht'⟩ | ⟨t, t', ht, ht', hbare⟩
  · simp only [ht, ht']
  · by_cases hkind : t.kind = .inputObject
    · -- whatever they hold, input objects are not interfaces
      obtain ⟨_, hshape⟩ := NamedType.exists_input_of_kind hkind
      obtain ⟨_, hshape'⟩ :=
        NamedType.exists_input_of_kind (NamedType.kind_of_bare_eq hbare ▸ hkind)
      simp only [ht, ht', hshape, hshape']
    · rw [NamedType.eq_of_bare_eq hbare hkind] at ht
      simp only [ht, ht']

/-- A member of a union is checked alike. -/
theorem memberViolations_eq :
    NamedType.memberViolations types = NamedType.memberViolations types' := by
  funext owner ref
  rw [NamedType.memberViolations, NamedType.memberViolations]
  rcases h.cases ref.name with ⟨ht, ht'⟩ | ⟨t, t', ht, ht', hbare⟩
  · simp only [ht, ht']
  · simp only [ht, ht', NamedType.kind_of_bare_eq hbare, NamedType.name_of_bare_eq hbare]

/-- The same is wrong with a type among types that look alike. -/
theorem violations_eq : NamedType.violations types = NamedType.violations types' := by
  funext t
  simp only [NamedType.violations, NamedType.fieldsViolations, h.field_violations_eq,
    h.interfaceViolations_eq, h.memberViolations_eq]

/-- The same root types are found among types that look alike. -/
theorem resolveRoot_eq (operation : OperationKind) (root? : Option RootDecl) :
    resolveRoot types operation root? = resolveRoot types' operation root? := by
  cases root? with
  | none =>
    rw [resolveRoot, resolveRoot]
    rcases h.cases operation.conventionalRoot with ⟨ht, ht'⟩ | ⟨t, t', ht, ht', hbare⟩
    · simp only [ht, ht']
    · simp only [ht, ht', NamedType.kind_of_bare_eq hbare, NamedType.location_of_bare_eq hbare]
  | some root =>
    rw [resolveRoot, resolveRoot]
    rcases h.cases root.type with ⟨ht, ht'⟩ | ⟨t, t', ht, ht', hbare⟩
    · simp only [ht, ht']
    · simp only [ht, ht', NamedType.kind_of_bare_eq hbare]

end LookAlike

/-! ### Going through bare types -/

/-- Nothing can be wrong with an input object. -/
theorem NamedType.violations_bare (types : Dict NamedType) (t : NamedType) :
    t.bare.violations types = t.violations types := by
  rw [bare]
  split
  · rename_i hshape
    simp only [violations, hshape]
  · rfl

/-- The checks of the types read nothing that a bare type lacks. -/
theorem violations_eq_flatMap_bare (types : Dict NamedType) :
    violations types =
      (types.values.map NamedType.bare).flatMap (NamedType.violations types) := by
  rw [violations, List.flatMap_map]
  exact List.flatMap_congr fun t _ ↦ (t.violations_bare types).symm

/-- An input object is no possible type and has none. -/
theorem indexType_bare (index : Dict (List String)) (t : NamedType) :
    indexType index t.bare = indexType index t := by
  rw [NamedType.bare]
  split
  · rename_i hshape
    simp only [indexType, hshape]
  · rfl

/-- The possible types are indexed from bare types. -/
theorem possibleTypes_eq_foldl_bare (types : Dict NamedType) :
    possibleTypes types = (types.values.map NamedType.bare).foldl indexType .empty := by
  rw [possibleTypes, List.foldl_map]
  simp only [indexType_bare]

end GraphQLCheck
