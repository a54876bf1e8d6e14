import GraphQLCheck.Binary64

/-!
# The shortest decimal of a double

Of the decimals that read back as a given double, `shortest` takes the one with the fewest digits
and, of those, the one nearest to the double; a tie goes up. The decimals that read back are those
between the midpoints to the two neighbouring doubles, ends included when the significand is even.
On the grid of decimals with a given number of digits only the two neighbours of the value have to
be tried: if any point of the grid lies in the interval then so does one of them.

`Binary64.text` writes the decimal without an exponent.
-/

namespace GraphQLCheck.Binary64

/-- Digits and the number of them that stand before the decimal point, which is negative if zeros
follow the point. -/
structure Decimal where
  /-- The digits, without zeros at either end. -/
  digits : List Char
  /-- The place of the decimal point, counted from the front of the digits. -/
  point : Int
  deriving DecidableEq, Repr

/-- The place of the decimal point of the ratio `num / den`, which is positive:
`10 ^ (p - 1) ≤ num / den < 10 ^ p`. -/
def pointOf (num den : Nat) : Int :=
  if den ≤ num then digitCount (num / den)
  else 1 - (digitCount ((den + num - 1) / num - 1) : Nat)

/-- A decimal from an integer and the power of ten it is multiplied by. -/
def Decimal.ofScaled (n : Nat) (power : Int) : Decimal :=
  let digits := Nat.toDigits 10 n
  ⟨(digits.reverse.dropWhile (· == '0')).reverse, digits.length + power⟩

/-- A double's value with the midpoints to its neighbours, all three over one denominator. -/
structure Interval where
  /-- The midpoint to the next smaller double. -/
  low : Nat
  /-- The value. -/
  value : Nat
  /-- The midpoint to the next larger double. -/
  high : Nat
  /-- The common denominator. -/
  den : Nat
  /-- Whether the midpoints themselves read back as the double. -/
  closed : Bool

/-- The interval of the magnitude of a double that is finite and not zero. Below a power of two the
doubles lie twice as close. -/
def Interval.of (x : Binary64) : Interval :=
  let m := x.significand
  let q := x.scale - 2
  let below := if x.fraction = 0 && 1 < x.exponentField then 1 else 2
  let up := if 0 ≤ q then 1 <<< q.toNat else 1
  let den := if 0 ≤ q then 1 else 1 <<< (-q).toNat
  ⟨(4 * m - below) * up, 4 * m * up, (4 * m + 2) * up, den, m % 2 = 0⟩

/-- Whether the ratio `num / den` of the interval's own denominator times `unit` lies in it. -/
def Interval.contains (i : Interval) (num unit : Nat) : Bool :=
  if i.closed then i.low * unit ≤ num && num ≤ i.high * unit
  else i.low * unit < num && num < i.high * unit

/-- The decimal with `count` digits that reads back, if there is one: the nearer of the value's two
neighbours on the grid. -/
def Interval.decimal? (i : Interval) (point : Int) (count : Nat) : Option Decimal :=
  let power := point - count
  -- one step of the grid is `step / unit`, in terms of the interval's denominator
  let step := i.den * if 0 ≤ power then Nat.pow 10 power.toNat else 1
  let unit := if 0 ≤ power then 1 else Nat.pow 10 (-power).toNat
  let down := i.value * unit / step
  let rest := i.value * unit % step
  let downIn := i.contains (down * step) unit
  let upIn := i.contains ((down + 1) * step) unit
  if downIn && !(upIn && step ≤ 2 * rest) then some (.ofScaled down power)
  else if upIn then some (.ofScaled (down + 1) power)
  else none

/-- The shortest decimal of the magnitude of a finite double that is not zero; seventeen digits
always suffice. -/
def shortest (x : Binary64) : Decimal :=
  let i := Interval.of x
  let point := pointOf i.value i.den
  ((List.range 17).findSome? fun n ↦ i.decimal? point (n + 1)).getD
    (.ofScaled (i.value / i.den) 0)

/-- A decimal in positional notation. A point stands only before a digit, and a number below one has
a zero before the point. -/
def Decimal.text (d : Decimal) : String :=
  let count : Int := d.digits.length
  String.ofList <|
    if d.point ≤ 0 then '0' :: '.' :: (List.replicate (-d.point).toNat '0' ++ d.digits)
    else if count ≤ d.point then d.digits ++ List.replicate (d.point - count).toNat '0'
    else d.digits.take d.point.toNat ++ '.' :: d.digits.drop d.point.toNat

/-- The written form of a double: the shortest digits that read back, without an exponent. -/
def text (x : Binary64) : String :=
  let sign := if x.negative then "-" else ""
  if !x.isFinite then if x.fraction = 0 then sign ++ "inf" else "NaN"
  else if x.significand = 0 then sign ++ "0"
  else sign ++ x.shortest.text

end GraphQLCheck.Binary64
