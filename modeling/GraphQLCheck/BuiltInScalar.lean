/-!
# Built-in scalars

The five scalars that are part of every schema, in the order in which a schema lists them. Three
tables speak of them, and each is looked at in a place of its own: one gives the scalars that a
schema begins with and what they are for (`BuiltInScalar.described`), one their names
(`BuiltInScalar.names`), and one leads from a name to the scalar whose literals it stands for
(`BuiltInScalar.byName`). The last two lead to the same scalars (`isSome_ofName?_iff`).
-/

namespace GraphQLCheck

/-- A scalar that is part of every schema. -/
inductive BuiltInScalar where
  | boolean
  | float
  | id
  | int
  | string
  deriving DecidableEq, Repr

namespace BuiltInScalar

/-- The built-in scalars in order. -/
def all : List BuiltInScalar := [.boolean, .float, .id, .int, .string]

/-- The name of a built-in scalar. -/
def name : BuiltInScalar → String
  | .boolean => "Boolean"
  | .float => "Float"
  | .id => "ID"
  | .int => "Int"
  | .string => "String"

/-! ### Tables -/

/-- The scalars that a schema begins with, by name, with what they are for. -/
def described : List (String × String) :=
  [("Boolean", "The `Boolean` scalar type represents `true` or `false`."),
    ("Float", "The `Float` scalar type represents signed double-precision fractional values " ++
      "as specified by IEEE 754."),
    ("ID", "The `ID` scalar type represents a unique identifier, often used to refetch an " ++
      "object or as the key for a cache."),
    ("Int", "The `Int` scalar type represents non-fractional signed whole numeric values. " ++
      "Int can represent values between -(2^31) and 2^31 - 1."),
    ("String", "The `String` scalar type represents textual data, represented as UTF-8 " ++
      "character sequences.")]

/-- The names of the scalars that are part of every schema. -/
def names : List String := ["Boolean", "Float", "ID", "Int", "String"]

/-- The scalars whose literals are told apart, by name. -/
def byName : List (String × BuiltInScalar) :=
  [("Boolean", .boolean), ("Float", .float), ("ID", .id), ("Int", .int), ("String", .string)]

/-- The scalar whose literals a name stands for. -/
def ofName? (name : String) : Option BuiltInScalar := byName.lookup name

/-! ### Names and literals -/

/-- The names that are listed are those of the scalars, in the same order. -/
theorem names_eq : names = all.map name := rfl

/-- The scalars are found under their own names. -/
theorem byName_eq : byName = all.map fun s ↦ (s.name, s) := rfl

/-- No scalar is missing from the list. -/
theorem mem_all (s : BuiltInScalar) : s ∈ all := by
  cases s <;> decide

/-- No name is missing from the list of names. -/
theorem name_mem_names (s : BuiltInScalar) : s.name ∈ names := by
  rw [names_eq]
  exact List.mem_map_of_mem s.mem_all

/-- A name leads to the literals of the scalar that it is the name of. -/
theorem ofName?_eq_some_iff {name : String} {s : BuiltInScalar} :
    ofName? name = some s ↔ s.name = name := by
  constructor
  · intro h
    obtain ⟨before, after, hsplit, -⟩ := List.lookup_eq_some_iff.1 h
    have hmem : (name, s) ∈ byName := hsplit ▸ List.mem_append_right _ List.mem_cons_self
    obtain ⟨s', -, heq⟩ := List.mem_map.1 (byName_eq ▸ hmem)
    rw [Prod.mk.injEq] at heq
    rw [← heq.1, heq.2]
  · rintro rfl
    cases s <;> decide

/-- The names that lead to literals are those of the built-in scalars. -/
theorem isSome_ofName?_iff {name : String} : (ofName? name).isSome ↔ name ∈ names := by
  rw [names_eq, List.mem_map]
  simp only [Option.isSome_iff_exists, ofName?_eq_some_iff]
  exact ⟨fun ⟨s, hs⟩ ↦ ⟨s, s.mem_all, hs⟩, fun ⟨s, _, hs⟩ ↦ ⟨s, hs⟩⟩

end BuiltInScalar

end GraphQLCheck
