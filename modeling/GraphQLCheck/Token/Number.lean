import GraphQLCheck.Token

/-!
# Number literals

A number literal reaches up to the next separator (`isNumberStop`), and the whole of it has to be a
number. An integer is zero or has no leading zero; it denotes something if it lies in the range of
64-bit integers. A literal with a point or an exponent is a double: an integer part, at least one
digit after the point, and an exponent that begins with a sign or with a digit from one to eight. If
nothing follows the sign, the literal denotes nothing.
-/

namespace GraphQLCheck.Number

/-- The characters that end a number literal. -/
def isNumberStop (c : Char) : Bool :=
  c == ' ' || c == '\n' || c == '\r' || c == '\t' || c == ',' || c == '#' ||
    (Punct.ofChar? c).isSome

/-- A number that a text of decimal digits denotes. -/
def ofDigits (digits : List Char) : Nat :=
  digits.foldl (fun n d ↦ 10 * n + (d.toNat - '0'.toNat)) 0

/-- Digits, at least one. -/
def digits? (text : List Char) : Option Nat :=
  if !text.isEmpty && text.all Char.isDigit then some (ofDigits text) else none

/-- A sign and the digits of an integer: zero, or digits that do not begin with zero. -/
def integer? (text : List Char) : Option (Bool × List Char) :=
  let (negative, digits) := match text with
    | '-' :: digits => (true, digits)
    | digits => (false, digits)
  if digits = ['0'] || ((digits?  digits).isSome && digits.head? != some '0') then
    some (negative, digits)
  else none

/-- An exponent: a sign and digits, or digits of which the first is neither zero nor nine. -/
def exponent? : List Char → Option Int
  | '+' :: digits => (digits? digits).map Int.ofNat
  | '-' :: digits => (digits? digits).map fun n ↦ -(n : Int)
  | d :: digits =>
    if '1' ≤ d && d ≤ '8' then (digits? (d :: digits)).map Int.ofNat else none
  | [] => none

/-- The text before and the text after the last character with a property, if there is one. -/
def splitLast? (p : Char → Bool) (text : List Char) : Option (List Char × List Char) :=
  let after := (text.reverse.takeWhile (!p ·)).reverse
  if after.length < text.length then
    some (text.take (text.length - after.length - 1), after)
  else none

/-- What stands before an exponent: the sign, the digits, and how many of them follow the point. -/
def mantissa? (text : List Char) : Option (Bool × List Char × Nat) := do
  match splitLast? (· == '.') text with
  | none =>
    let (negative, whole) ← integer? text
    return (negative, whole, 0)
  | some (whole, fraction) =>
    let (negative, whole) ← integer? whole
    let _ ← digits? fraction
    return (negative, whole ++ fraction, fraction.length)

/-- What a literal with a point or an exponent says: a double, unless the exponent is a sign alone.
An exponent that is left out is zero. -/
def float? (text : List Char) : Option Lexeme := do
  let (mantissa, exponent) :=
    (splitLast? (fun c ↦ c == 'e' || c == 'E') text).getD (text, ['+', '0'])
  let (negative, digits, places) ← mantissa? mantissa
  if exponent = ['+'] || exponent = ['-'] then return .void .noExponent
  let power ← exponent? exponent
  return .float (.ofDecimal negative (ofDigits digits) (power - places))

/-- The least and the greatest 64-bit integer. -/
def intRange : Int × Int := (-9223372036854775808, 9223372036854775807)

/-- What a literal without a point and without an exponent says: an integer, if it is in range. -/
def int? (text : List Char) : Option Lexeme := do
  let (negative, digits) ← integer? text
  let n : Int := ofDigits digits
  let value := if negative then -n else n
  if value < intRange.1 then return .void .tooSmall
  if intRange.2 < value then return .void .tooLarge
  return .int value

/-- What a number literal says: it is an integer, or a double if it has a point or an exponent. -/
def lexeme? (text : List Char) : Option Lexeme :=
  if text.any fun c ↦ c == '.' || c == 'e' || c == 'E' then float? text else int? text

end GraphQLCheck.Number
