/-!
# Double-precision numbers

A `Binary64` is the 64-bit word of an IEEE 754 double: a sign, eleven bits of biased exponent and
fifty-two bits of fraction. Reading a decimal (`Binary64.ofDecimal`) goes through the exact ratio
that it denotes, which `Binary64.ofRatio` rounds to the nearest double, a tie going to the even one
and a value beyond the range to an infinity. Everything is arithmetic on natural numbers.

With `e` the scale of the last place and `q` the rounded significand, the word without its sign is
`(e + 1074) * 2 ^ 52 + q`: the leading bit of a normal significand adds one to the exponent field, a
subnormal significand leaves it zero, and a significand rounded up to `2 ^ 53` carries into it.
-/

namespace GraphQLCheck

/-- The word of an IEEE 754 double-precision number. -/
structure Binary64 where
  /-- Sign, biased exponent and fraction, from the highest bit to the lowest. -/
  bits : UInt64
  deriving DecidableEq, Repr, Inhabited

namespace Binary64

/-- The word with the given sign and the other bits as a number. -/
def ofMagnitude (negative : Bool) (magnitude : Nat) : Binary64 :=
  ⟨UInt64.ofNat ((if negative then 1 <<< 63 else 0) + magnitude)⟩

/-- The sign bit. -/
def negative (x : Binary64) : Bool := 1 <<< 63 ≤ x.bits.toNat

/-- The eleven bits of the exponent. -/
def exponentField (x : Binary64) : Nat := (x.bits.toNat >>> 52) % (1 <<< 11)

/-- The fifty-two bits of the fraction. -/
def fraction (x : Binary64) : Nat := x.bits.toNat % (1 <<< 52)

/-- Neither an infinity nor a word that is no number. -/
def isFinite (x : Binary64) : Bool := x.exponentField != 2047

/-- The fraction with the leading bit of a normal number. -/
def significand (x : Binary64) : Nat :=
  if x.exponentField = 0 then x.fraction else (1 <<< 52) + x.fraction

/-- The power of two that the significand is multiplied by. -/
def scale (x : Binary64) : Int := (max x.exponentField 1 : Nat) - 1075

/-- The bits of infinity, above those of every finite number. -/
def infinityMagnitude : Nat := 2047 <<< 52

/-! ### Rounding -/

/-- The integer nearest to `n / d`, the even one of two that are equally near. -/
def roundDiv (n d : Nat) : Nat :=
  let q := n / d
  let r := n % d
  if 2 * r < d then q else if d < 2 * r then q + 1 else q + q % 2

/-- The ratio `num / den` divided by `2 ^ e`, as a ratio. -/
def unscale (num den : Nat) (e : Int) : Nat × Nat :=
  if 0 ≤ e then (num, den <<< e.toNat) else (num <<< (-e).toNat, den)

/-- The scale of the last place of the double nearest to `num / den`: the significand has
fifty-three bits there, or fewer at the smallest scale. -/
def lastPlace (num den : Nat) : Int :=
  let e := max ((num.log2 : Int) - den.log2 - 52) (-1074)
  let (n, d) := unscale num den e
  if n / d < 1 <<< 52 && -1074 < e then e - 1 else e

/-- The double nearest to `num / den` with the given sign. -/
def ofRatio (negative : Bool) (num den : Nat) : Binary64 :=
  if num = 0 then ofMagnitude negative 0
  else
    let e := lastPlace num den
    let (n, d) := unscale num den e
    ofMagnitude negative (min (((e + 1074).toNat <<< 52) + roundDiv n d) infinityMagnitude)

/-- The double nearest to an integer. -/
def ofInt (i : Int) : Binary64 := ofRatio (i < 0) i.natAbs 1

/-- The number of decimal digits of a natural number. -/
def digitCount (n : Nat) : Nat := (Nat.toDigits 10 n).length

/-- The double nearest to `digits * 10 ^ exponent` with the given sign. A magnitude of at least `10
^ 309` is beyond the range, and one below `10 ^ (-324)` is nearest to zero; these two are decided
without computing the power. -/
def ofDecimal (negative : Bool) (digits : Nat) (exponent : Int) : Binary64 :=
  if digits = 0 then ofMagnitude negative 0
  else if 309 < digitCount digits + exponent then ofMagnitude negative infinityMagnitude
  else if digitCount digits + exponent ≤ -324 then ofMagnitude negative 0
  else if 0 ≤ exponent then ofRatio negative (digits * Nat.pow 10 exponent.toNat) 1
  else ofRatio negative digits (Nat.pow 10 (-exponent).toNat)

/-- Sixteen hexadecimal digits. -/
def hex (x : Binary64) : String :=
  String.ofList ((List.range 16).map fun i ↦ Nat.digitChar ((x.bits.toNat >>> (4 * (15 - i))) % 16))

end Binary64

end GraphQLCheck
