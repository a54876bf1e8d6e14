import GraphQLCheck.Coercion
import GraphQLCheck.Proofs.Value.Variables

/-!
# Constants as values of a custom scalar

A scalar that a schema defines is meant to take every constant but null, as it stands
(`Value.asConstant?`). The check looks at the outside of a literal only: it refuses a variable, and
takes a list or an object in which one occurs. So it does what it is meant to for constants and for
bare variables, and for no other literal (`coerceCustom?_eq_asConstant?_iff`). Where the grammar
asks for a constant, as it does for the defaults in a schema, the difference does not show.
-/

namespace GraphQLCheck

/-- A literal as it stands, if it is a constant and not null. -/
def Value.asConstant? : Value → Option Coerced
  | .null => none
  | v => if v.Constant then some (.literal v) else none

theorem Value.not_constant_of_eq_variable {v : Value} {x : String} (h : v = .variable x) :
    ¬ v.Constant :=
  fun hv ↦ hv x (h ▸ .here)

/-- What a scalar takes is a constant that is not null. -/
theorem Value.asConstant?_eq_some_iff {v : Value} {c : Coerced} :
    v.asConstant? = some c ↔ v ≠ .null ∧ v.Constant ∧ c = .literal v := by
  cases v <;> simp [asConstant?, eq_comm]

theorem coerceCustom?_eq_none_iff {v : Value} :
    coerceCustom? v = none ↔ v = .null ∨ ∃ x, v = .variable x := by
  cases v <;> simp [coerceCustom?]

theorem coerceCustom?_eq_some_iff {v : Value} {c : Coerced} :
    coerceCustom? v = some c ↔ v ≠ .null ∧ (∀ x, v ≠ .variable x) ∧ c = .literal v := by
  cases v <;> simp [coerceCustom?, eq_comm]

/-- **Where variables go unnoticed.** A literal is treated as it is meant to be if it is a constant
or nothing but a variable. -/
theorem coerceCustom?_eq_asConstant?_iff {v : Value} :
    coerceCustom? v = v.asConstant? ↔ v.Constant ∨ ∃ x, v = .variable x := by
  constructor
  · intro h
    by_cases hvariable : ∃ x, v = .variable x
    · exact Or.inr hvariable
    refine Or.inl ?_
    by_cases hnull : v = .null
    · rw [hnull, Value.constant_iff]
      rfl
    · -- What is neither null nor a variable is taken, so it has to be a constant.
      have hliteral : coerceCustom? v = some (.literal v) :=
        coerceCustom?_eq_some_iff.2 ⟨hnull, not_exists.1 hvariable, rfl⟩
      rw [h] at hliteral
      exact (Value.asConstant?_eq_some_iff.1 hliteral).2.1
  · intro h
    ext c
    rw [coerceCustom?_eq_some_iff, Value.asConstant?_eq_some_iff]
    refine and_congr_right fun _ ↦ and_congr_left fun _ ↦ ?_
    rcases h with hconstant | ⟨x, hx⟩
    · exact iff_of_true (fun x hx ↦ Value.not_constant_of_eq_variable hx hconstant) hconstant
    · exact iff_of_false (fun hv ↦ hv x hx) (Value.not_constant_of_eq_variable hx)

/-- **Literals of a custom scalar.** A scalar that is not built in treats a literal as it is meant
to if the literal is a constant or nothing but a variable. It refuses null and bare variables only,
and takes the rest as it stands, variables and all. What the grammar reads as a constant is treated
as it is meant to be. -/
theorem coerceScalar?_eq_asConstant?_iff {name : String} (h : BuiltInScalar.ofName? name = none) :
    (∀ v, coerceScalar? name v = v.asConstant? ↔ v.Constant ∨ ∃ x, v = .variable x) ∧
    (∀ v, coerceScalar? name v = none ↔ v = .null ∨ ∃ x, v = .variable x) ∧
    (∀ v c, coerceScalar? name v = some c → c = .literal v) ∧
    ∀ depth, (Value.parser true depth).Yields fun v ↦ coerceScalar? name v = v.asConstant? := by
  have hcustom (v : Value) : coerceScalar? name v = coerceCustom? v := by
    rw [coerceScalar?, h]
  simp only [hcustom]
  refine ⟨fun v ↦ coerceCustom?_eq_asConstant?_iff, fun v ↦ coerceCustom?_eq_none_iff,
    fun v c hc ↦ (coerceCustom?_eq_some_iff.1 hc).2.2, fun depth ↦ ?_⟩
  refine (Value.parser_yields true depth).mono fun v hv ↦ ?_
  exact coerceCustom?_eq_asConstant?_iff.2 (Or.inl (hv rfl))

theorem coerceScalar?_date : BuiltInScalar.ofName? "Date" = none ∧
    coerceScalar? "Date" (.object [("at", .list [.int 1, .variable "x"])]) ≠
      Value.asConstant? (.object [("at", .list [.int 1, .variable "x"])]) ∧
    coerceScalar? "Date" (.object [("at", .list [.int 1, .null])]) =
      Value.asConstant? (.object [("at", .list [.int 1, .null])]) := by
  have hname : BuiltInScalar.ofName? "Date" = none := by decide
  obtain ⟨hmeant, -⟩ := coerceScalar?_eq_asConstant?_iff hname
  refine ⟨hname, ?_, (hmeant _).2 (Or.inl (by decide +kernel))⟩
  rw [ne_eq, hmeant]
  rintro (hconstant | ⟨x, hx⟩)
  · exact absurd hconstant (by decide +kernel)
  · cases hx

/-- A list in which a variable occurs is taken as it stands. -/
theorem coerceScalar?_list_variable : BuiltInScalar.ofName? "Date" = none ∧
    (Value.list [.variable "x"]).Mentions "x" ∧
    coerceScalar? "Date" (.list [.variable "x"]) = some (.literal (.list [.variable "x"])) :=
  ⟨by decide, .item List.mem_cons_self .here, rfl⟩

end GraphQLCheck
