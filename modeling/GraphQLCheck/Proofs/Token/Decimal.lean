import GraphQLCheck.Token.Number
import Mathlib.Data.List.Basic

/-!
# The decimal text of an integer

The decimal text of an integer is an integer literal: its digits do not begin with zero unless it is
zero, and a minus sign stands before them if it is negative. Read as a literal, it denotes the
integer again, as far as integer literals go (`Number.lexeme?_toString`), so different integers have
different texts.
-/

namespace GraphQLCheck.Number

theorem ofDigits_toDigits (n : Nat) : ofDigits (Nat.toDigits 10 n) = n := by
  rw [ofDigits, ← Nat.ofDigitChars_eq_foldl, Nat.ofDigitChars_ten_toDigits]

theorem isDigit_of_mem_toDigits {n : Nat} {c : Char} (h : c ∈ Nat.toDigits 10 n) :
    c.isDigit = true :=
  Nat.isDigit_of_mem_toDigits (by decide) (by decide) h

theorem digits?_toDigits (n : Nat) : digits? (Nat.toDigits 10 n) = some n := by
  have hall : (Nat.toDigits 10 n).all Char.isDigit = true :=
    List.all_eq_true.2 fun c hc ↦ isDigit_of_mem_toDigits hc
  rw [digits?, hall, ofDigits_toDigits, List.isEmpty_eq_false_iff.2 Nat.toDigits_ne_nil]
  rfl

/-- Of all numbers, only zero begins with a zero. -/
theorem head?_toDigits_ne {n : Nat} (h : 0 < n) : (Nat.toDigits 10 n).head? ≠ some '0' := by
  induction n using Nat.strongRecOn with
  | ind n ih =>
    rcases Nat.lt_or_ge n 10 with hlt | hge
    · have hdigit : ∀ m < 10, 0 < m → some m.digitChar ≠ some '0' := by decide
      rw [Nat.toDigits_of_lt_base hlt]
      exact hdigit n hlt h
    · -- The first digit is that of the number without its last digit.
      rw [Nat.toDigits_of_base_le (by decide) hge,
        List.head?_append_of_ne_nil _ Nat.toDigits_ne_nil]
      exact ih (n / 10) (by omega) (by omega)

/-- Decimal digits are the digits of an integer literal. -/
theorem toDigits_isInteger (n : Nat) : (Nat.toDigits 10 n = ['0'] ||
    ((digits? (Nat.toDigits 10 n)).isSome && (Nat.toDigits 10 n).head? != some '0')) = true := by
  rcases Nat.eq_zero_or_pos n with rfl | hpos
  · rfl
  · rw [digits?_toDigits, bne_iff_ne.2 (head?_toDigits_ne hpos)]
    simp

theorem toList_toString (k : Int) : (toString k).toList =
    if k < 0 then '-' :: Nat.toDigits 10 k.natAbs else Nat.toDigits 10 k.natAbs := by
  cases k with
  | ofNat n =>
    rw [if_neg (by simp)]
    exact Nat.toList_repr
  | negSucc n =>
    rw [if_pos (Int.negSucc_lt_zero n)]
    show ("-" ++ (n + 1).repr).toList = _
    rw [String.toList_append, Nat.toList_repr]
    rfl

/-- The text of an integer is read as its sign and its digits. -/
theorem integer?_toString (k : Int) :
    integer? (toString k).toList = some (decide (k < 0), Nat.toDigits 10 k.natAbs) := by
  rw [toList_toString]
  by_cases hk : k < 0
  · rw [if_pos hk, integer?, decide_eq_true hk]
    exact if_pos (toDigits_isInteger k.natAbs)
  · rw [if_neg hk, integer?, decide_eq_false hk]
    · exact if_pos (toDigits_isInteger k.natAbs)
    · intro digits hminus
      have hmem : '-' ∈ Nat.toDigits 10 k.natAbs := hminus ▸ List.mem_cons_self
      exact absurd (isDigit_of_mem_toDigits hmem) (by decide)

/-- Different integers have different texts. -/
theorem toString_injective {k k' : Int} (h : toString k = toString k') : k = k' := by
  have hread : integer? (toString k).toList = integer? (toString k').toList := by rw [h]
  rw [integer?_toString, integer?_toString] at hread
  obtain ⟨hsign, hdigits⟩ := Prod.mk.inj (Option.some.inj hread)
  have hneg : k < 0 ↔ k' < 0 := decide_eq_decide.1 hsign
  have habs : k.natAbs = k'.natAbs := by
    rw [← ofDigits_toDigits k.natAbs, hdigits, ofDigits_toDigits]
  omega

/-- There is neither a point nor an exponent in the text of an integer. -/
theorem any_toString (k : Int) :
    (toString k).toList.any (fun c ↦ c == '.' || c == 'e' || c == 'E') = false := by
  have hdigits (n : Nat) :
      (Nat.toDigits 10 n).any (fun c ↦ c == '.' || c == 'e' || c == 'E') = false := by
    rw [List.any_eq_false]
    intro c hc hmark
    have hdigit : c.isDigit = true := isDigit_of_mem_toDigits hc
    simp only [Bool.or_eq_true, beq_iff_eq, or_assoc] at hmark
    rcases hmark with rfl | rfl | rfl <;> cases hdigit
  rw [toList_toString]
  split
  · exact hdigits k.natAbs
  · exact hdigits k.natAbs

/-- **The text of an integer denotes it.** -/
theorem lexeme?_toString {k : Int} (hmin : intRange.1 ≤ k) (hmax : k ≤ intRange.2) :
    lexeme? (toString k).toList = some (.int k) := by
  have hvalue : (if decide (k < 0) = true then -(k.natAbs : Int) else k.natAbs) = k := by
    by_cases hk : k < 0
    · rw [decide_eq_true hk, if_pos rfl]
      omega
    · rw [decide_eq_false hk, if_neg Bool.false_ne_true]
      omega
  rw [lexeme?, any_toString, if_neg Bool.false_ne_true, int?, integer?_toString]
  show (if _ < intRange.1 then _ else _) = _
  rw [ofDigits_toDigits, hvalue, if_neg (Int.not_lt.2 hmin), if_neg (Int.not_lt.2 hmax)]
  rfl

end GraphQLCheck.Number
