import GraphQLCheck.Coercion
import GraphQLCheck.Proofs.Schema.PossibleNames
import GraphQLCheck.Proofs.Token.Decimal
import Mathlib.Algebra.Group.Int.Defs

/-!
# Literals of built-in scalars and enums

Which literals a built-in scalar takes, and what they are as its values, is said by one equivalence
for each of the five. Nothing is cut down or wrapped around on the way: `Int` takes the integers of
32 bits as they are, and the text that `ID` makes of an integer is a literal of that integer.

How the scalars stand to one another follows from the equivalences: what `Int` takes, `Float` and
`ID` take as well; `Boolean` shares nothing with another scalar. An enum takes the names of the
values that the schema declares for it, which no scalar takes.
-/

namespace GraphQLCheck

namespace BuiltInScalar

variable {v : Value} {c : Coerced}

/-- A scalar that is asked for by its name coerces as that scalar. -/
@[simp] theorem coerceScalar?_name (scalar : BuiltInScalar) (v : Value) :
    coerceScalar? scalar.name v = scalar.coerce? v := by
  rw [coerceScalar?, ofName?_eq_some_iff.2 rfl]

/-- The integers that fit are those of 32 bits, with sign. -/
theorem fits32_iff {k : Int} : fits32 k = true ↔ -2 ^ 31 ≤ k ∧ k ≤ 2 ^ 31 - 1 := by
  simp [fits32]

/-- `Int` takes the integers of 32 bits. -/
theorem coerce?_int_eq_some_iff : int.coerce? v = some c ↔
    ∃ k : Int, v = .int k ∧ (-2 ^ 31 ≤ k ∧ k ≤ 2 ^ 31 - 1) ∧ .int k = c := by
  cases v with
  | int k =>
    rw [coerce?, Option.ite_none_right_eq_some, fits32_iff]
    simp
  | _ => simp [coerce?]

/-- `Float` takes integers and finite floats. -/
theorem coerce?_float_eq_some_iff : float.coerce? v = some c ↔
    (∃ k, v = .int k ∧ .float (.ofInt k) = c) ∨
      ∃ x, v = .float x ∧ x.isFinite = true ∧ .float x = c := by
  cases v <;> simp [coerce?]

/-- `ID` takes strings and integers, and writes an integer in decimals. -/
theorem coerce?_id_eq_some_iff : id.coerce? v = some c ↔
    (∃ text, v = .string text ∧ .id text = c) ∨ ∃ k : Int, v = .int k ∧ .id (toString k) = c := by
  cases v <;> simp [coerce?]

/-- `String` takes strings. -/
theorem coerce?_string_eq_some_iff :
    string.coerce? v = some c ↔ ∃ text, v = .string text ∧ .string text = c := by
  cases v <;> simp [coerce?]

/-- `Boolean` takes the two booleans. -/
theorem coerce?_boolean_eq_some_iff :
    boolean.coerce? v = some c ↔ ∃ b, v = .boolean b ∧ .boolean b = c := by
  cases v <;> simp [coerce?]

/-! ### How the scalars stand to one another -/

/-- What `Int` takes is an integer to `Float` and to `ID`. -/
theorem coerce?_of_int (h : int.coerce? v = some c) : ∃ k : Int, c = .int k ∧
    float.coerce? v = some (.float (.ofInt k)) ∧ id.coerce? v = some (.id (toString k)) := by
  obtain ⟨k, rfl, -, rfl⟩ := coerce?_int_eq_some_iff.1 h
  exact ⟨k, rfl, coerce?_float_eq_some_iff.2 (Or.inl ⟨k, rfl, rfl⟩),
    coerce?_id_eq_some_iff.2 (Or.inr ⟨k, rfl, rfl⟩)⟩

theorem coerce?_boolean_literal {scalar : BuiltInScalar} (h : scalar ≠ .boolean) (b : Bool) :
    scalar.coerce? (.boolean b) = none := by
  cases scalar <;> first | rfl | exact absurd rfl h

/-- The literals that are no value of any scalar. -/
def isForeign : Value → Bool
  | .null | .variable _ | .enum _ | .list _ | .object _ => true
  | .boolean _ | .float _ | .int _ | .string _ => false

theorem coerce?_of_isForeign (h : isForeign v = true) (scalar : BuiltInScalar) :
    scalar.coerce? v = none := by
  cases v with
  | boolean _ | float _ | int _ | string _ => cases h
  | _ => cases scalar <;> rfl

end BuiltInScalar

/-! ### Enums -/

/-- An enum takes its values, written as names. -/
theorem coerceEnum?_eq_some_iff {values : Dict EnumValue} {v : Value} {c : Coerced} :
    coerceEnum? values v = some c ↔ ∃ name ∈ values.keys, v = .enum name ∧ .enum name = c := by
  cases v with
  | enum name =>
    rw [coerceEnum?, Option.ite_none_right_eq_some, Dict.contains_iff]
    simp
  | _ => simp [coerceEnum?]

/-- The values of an enum have the names that its declaration lists. -/
theorem NamedType.exists_enum_of_ofDecl {file : Option String} {decl : TypeDecl} {t : NamedType}
    {values : Dict EnumValue} (h : NamedType.ofDecl file decl = .ok t)
    (hvalues : t.shape = .enum values) : ∃ declared, decl.body = .enum declared ∧
      ∀ name, name ∈ values.keys ↔ ∃ value ∈ declared, value.name = name := by
  obtain ⟨shape, hshape, h⟩ := bind_eq_ok_iff.1 h
  cases h
  obtain rfl : shape = .enum values := hvalues
  rw [Shape.ofDecl] at hshape
  split at hshape
  case h_1 declared hbody =>
    obtain rfl := (Shape.enum.inj (Except.ok.inj hshape)).symm
    refine ⟨declared, hbody, fun name ↦ ?_⟩
    rw [Dict.keys_ofList, List.mem_eraseDups, List.map_map]
    exact List.mem_map
  case h_3 | h_4 =>
    obtain ⟨fields, -, hshape⟩ := bind_eq_ok_iff.1 hshape
    cases hshape
  all_goals cases hshape

/-- What an enum of a schema takes. -/
structure Schema.TakesDeclaredValues (s : Schema) (t : NamedType)
    (coerce : Value → Option Coerced) : Prop where
  /-- The schema is that of some documents. -/
  documents : ∃ docs, Schema.ofDocuments docs = .ok s
  /-- Whichever these are, they declare the enum, and it takes the names of the declared values. -/
  declared : ∀ docs, Schema.ofDocuments docs = .ok s → ∃ p ∈ placedIn docs, ∃ decl values,
    p.declaration = .type decl ∧ decl.name = t.name ∧ decl.body = .enum values ∧
      ∀ v c, coerce v = some c ↔ ∃ value ∈ values, v = .enum value.name ∧ .enum value.name = c
  /-- It takes nothing that a built-in scalar takes. -/
  apart : ∀ (scalar : BuiltInScalar) v, coerce v = none ∨ coerceScalar? scalar.name v = none

/-- An enum takes the values that its declaration lists. -/
theorem Schema.Built.takesDeclaredValues {s : Schema} {t : NamedType} {values : Dict EnumValue}
    (h : s.Built) (ht : t ∈ s.types.values) (hvalues : t.shape = .enum values) :
    s.TakesDeclaredValues t (coerceEnum? values) where
  documents := h.exists_ofDocuments
  declared docs hdocs := by
    have hscalar : t.kind ≠ .scalar := by
      rw [NamedType.kind, hvalues]
      exact Kind.noConfusion
    obtain ⟨p, hp, decl, hdecl, hofDecl⟩ := Schema.exists_ofDecl_of_ofDocuments hdocs ht hscalar
    obtain ⟨declared, hbody, hkeys⟩ := NamedType.exists_enum_of_ofDecl hofDecl hvalues
    refine ⟨p, hp, decl, declared, hdecl, (NamedType.name_of_ofDecl hofDecl).symm, hbody, ?_⟩
    intro v c
    rw [coerceEnum?_eq_some_iff]
    constructor
    · rintro ⟨name, hname, rfl, rfl⟩
      obtain ⟨value, hvalue, rfl⟩ := (hkeys name).1 hname
      exact ⟨value, hvalue, rfl, rfl⟩
    · rintro ⟨value, hvalue, rfl, rfl⟩
      exact ⟨value.name, (hkeys value.name).2 ⟨value, hvalue, rfl⟩, rfl, rfl⟩
  apart scalar v := by
    rw [BuiltInScalar.coerceScalar?_name]
    rcases hv : coerceEnum? values v with - | c
    · exact Or.inl rfl
    · obtain ⟨name, -, rfl, -⟩ := coerceEnum?_eq_some_iff.1 hv
      exact Or.inr (BuiltInScalar.coerce?_of_isForeign rfl scalar)

/-! ### Scalars and enums together -/

/-- What the built-in scalars make of literals. -/
structure TakesLiterals (coerce : BuiltInScalar → Value → Option Coerced) : Prop where
  /-- `Int` takes the integers of 32 bits, as they are. -/
  int : ∀ v c, coerce .int v = some c ↔
    ∃ k : Int, v = .int k ∧ (-2 ^ 31 ≤ k ∧ k ≤ 2 ^ 31 - 1) ∧ .int k = c
  /-- `Float` takes integers and finite numbers. -/
  float : ∀ v c, coerce .float v = some c ↔
    (∃ k, v = .int k ∧ .float (.ofInt k) = c) ∨
      ∃ x, v = .float x ∧ x.isFinite = true ∧ .float x = c
  /-- `ID` takes strings as they are, and integers as texts. -/
  id : ∀ v c, coerce .id v = some c ↔
    (∃ text, v = .string text ∧ .id text = c) ∨ ∃ k : Int, v = .int k ∧ .id (toString k) = c
  /-- The text of an integer denotes it, wherever integer literals denote something. -/
  denotes : ∀ k : Int, Number.intRange.1 ≤ k → k ≤ Number.intRange.2 →
    Number.lexeme? (toString k).toList = some (.int k)
  /-- Different integers have different texts. -/
  distinct : ∀ k k' : Int, toString k = toString k' → k = k'
  /-- `String` takes strings, as they are. -/
  string : ∀ v c, coerce .string v = some c ↔ ∃ text, v = .string text ∧ .string text = c
  /-- `Boolean` takes booleans, as they are. -/
  boolean : ∀ v c, coerce .boolean v = some c ↔ ∃ b, v = .boolean b ∧ .boolean b = c
  /-- What `Int` takes, `Float` takes, and `ID` as the text of the same number. -/
  ofInt : ∀ v c, coerce .int v = some c → ∃ k : Int, c = .int k ∧
    coerce .float v = some (.float (.ofInt k)) ∧ coerce .id v = some (.id (toString k))
  /-- What `Boolean` takes, no other scalar takes. -/
  apart : ∀ scalar ≠ .boolean, ∀ v, coerce .boolean v = none ∨ coerce scalar v = none
  /-- Null, variables, enum values, lists and objects are taken by none. -/
  foreign : ∀ scalar v, BuiltInScalar.isForeign v = true → coerce scalar v = none

theorem BuiltInScalar.takesLiterals : TakesLiterals BuiltInScalar.coerce? where
  int _ _ := coerce?_int_eq_some_iff
  float _ _ := coerce?_float_eq_some_iff
  id _ _ := coerce?_id_eq_some_iff
  denotes _ := Number.lexeme?_toString
  distinct _ _ := Number.toString_injective
  string _ _ := coerce?_string_eq_some_iff
  boolean _ _ := coerce?_boolean_eq_some_iff
  ofInt _ _ := coerce?_of_int
  apart scalar hscalar v := by
    rcases hv : boolean.coerce? v with - | c
    · exact Or.inl rfl
    · obtain ⟨b, rfl, -⟩ := coerce?_boolean_eq_some_iff.1 hv
      exact Or.inr (coerce?_boolean_literal hscalar b)
  foreign scalar v hv := coerce?_of_isForeign hv scalar

/-- **Literals of built-in scalars and enums.** By name, the built-in scalars take literals as laid
down in `TakesLiterals`. Each enum of a schema takes the names of its declared values, which no
built-in scalar takes. -/
theorem Schema.Built.takesLiterals_coercion? {s : Schema} (h : s.Built) :
    TakesLiterals (fun scalar ↦ coerceScalar? scalar.name) ∧
    ∀ t ∈ s.types.values, t.kind = .enum →
      ∃ coerce, t.coercion? = some coerce ∧ s.TakesDeclaredValues t coerce := by
  have hnames : (fun scalar : BuiltInScalar ↦ coerceScalar? scalar.name) = BuiltInScalar.coerce? :=
    funext fun scalar ↦ funext (BuiltInScalar.coerceScalar?_name scalar)
  refine ⟨hnames ▸ BuiltInScalar.takesLiterals, fun t ht hkind ↦ ?_⟩
  rcases hshape : t.shape with values | _ | _ | _ | _ | _
  case enum =>
    exact ⟨coerceEnum? values, by rw [NamedType.coercion?, hshape], h.takesDeclaredValues ht hshape⟩
  all_goals
    rw [NamedType.kind, hshape] at hkind
    cases hkind

/-- A query for a unit of length, and the enum of units. -/
def unitDeclarations : List Declaration :=
  [.type ⟨⟨1, 1⟩, none, "Query", .object [] [⟨⟨2, 3⟩, none, "unit", [], .named "Unit"⟩]⟩,
    .type ⟨⟨4, 1⟩, none, "Unit", .enum [⟨⟨5, 3⟩, none, "KM"⟩, ⟨⟨6, 3⟩, none, "MILE"⟩]⟩]

theorem takesDeclaredValues_unitDeclarations : ∃ s : Schema, s.Built ∧
    TakesLiterals (fun scalar ↦ coerceScalar? scalar.name) ∧
    ∃ t ∈ s.types.values, t.kind = .enum ∧ ∃ coerce, t.coercion? = some coerce ∧
      s.TakesDeclaredValues t coerce ∧ (coerce (.enum "MILE")).isSome ∧
      coerce (.enum "YARD") = none ∧ coerce (.string "MILE") = none := by
  have h : ∃ s, Schema.ofDocuments [⟨none, unitDeclarations⟩] = .ok s ∧
      ∃ t ∈ s.types.values, t.kind = .enum ∧ ∀ coerce ∈ t.coercion?,
        (coerce (.enum "MILE")).isSome ∧ (coerce (.enum "YARD")).isNone ∧
          (coerce (.string "MILE")).isNone :=
    ⟨_, rfl, by decide +kernel⟩
  obtain ⟨s, hs, t, ht, hkind, hcoerce⟩ := h
  have hbuilt : s.Built := Schema.built_of_ofDocuments hs
  obtain ⟨hscalars, henums⟩ := hbuilt.takesLiterals_coercion?
  obtain ⟨coerce, htype, htakes⟩ := henums t ht hkind
  obtain ⟨hmile, hyard, hstring⟩ := hcoerce coerce htype
  exact ⟨s, hbuilt, hscalars, t, ht, hkind, coerce, htype, htakes, hmile,
    Option.isNone_iff_eq_none.1 hyard, Option.isNone_iff_eq_none.1 hstring⟩

end GraphQLCheck
