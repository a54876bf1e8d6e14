/-!
# UTF-8

Decoding bytes to characters. Where the bytes are not UTF-8, `Utf8.Failure` tells how many bytes
before the fault are good and how many bytes at the fault can start no character: the longest part
there that is the beginning of a character, or one byte. A text that ends inside a character has no
such length.
-/

namespace GraphQLCheck

/-- Where and how bytes fail to be UTF-8. -/
structure Utf8.Failure where
  /-- The number of bytes before the fault. -/
  validUpTo : Nat
  /-- The number of faulty bytes, unless the bytes just end too early. -/
  length? : Option Nat
  deriving DecidableEq, Repr

namespace Utf8

/-- A byte that continues a character. -/
def isTail (b : UInt8) : Bool := 0x80 ≤ b && b ≤ 0xBF

/-- The number of bytes of a character that begins with `b`, and the bytes that may come second. -/
def lead? (b : UInt8) : Option (Nat × UInt8 × UInt8) :=
  if 0xC2 ≤ b && b ≤ 0xDF then some (2, 0x80, 0xBF)
  else if b = 0xE0 then some (3, 0xA0, 0xBF)
  else if b = 0xED then some (3, 0x80, 0x9F)
  else if 0xE1 ≤ b && b ≤ 0xEF then some (3, 0x80, 0xBF)
  else if b = 0xF0 then some (4, 0x90, 0xBF)
  else if 0xF1 ≤ b && b ≤ 0xF3 then some (4, 0x80, 0xBF)
  else if b = 0xF4 then some (4, 0x80, 0x8F)
  else none

/-- The low six bits of a byte that continues a character. -/
def tailBits (b : UInt8) : Nat := b.toNat % 64

/-- The characters of bytes that stand after `index` good ones. -/
def decodeFrom (index : Nat) : List UInt8 → Except Failure (List Char)
  | [] => .ok []
  | a :: bs =>
    if a < 0x80 then (decodeFrom (index + 1) bs).map (Char.ofNat a.toNat :: ·)
    else match lead? a with
      | none => .error ⟨index, some 1⟩
      | some (width, low, high) =>
        match bs with
        | [] => .error ⟨index, none⟩
        | b :: cs =>
          if !(low ≤ b && b ≤ high) then .error ⟨index, some 1⟩
          else if width = 2 then
            (decodeFrom (index + 2) cs).map (Char.ofNat (a.toNat % 32 * 64 + tailBits b) :: ·)
          else match cs with
            | [] => .error ⟨index, none⟩
            | c :: ds =>
              if !isTail c then .error ⟨index, some 2⟩
              else if width = 3 then
                (decodeFrom (index + 3) ds).map
                  (Char.ofNat (a.toNat % 16 * 4096 + tailBits b * 64 + tailBits c) :: ·)
              else match ds with
                | [] => .error ⟨index, none⟩
                | d :: es =>
                  if !isTail d then .error ⟨index, some 3⟩
                  else (decodeFrom (index + 4) es).map (Char.ofNat
                    (a.toNat % 8 * 262144 + tailBits b * 4096 + tailBits c * 64 + tailBits d) :: ·)

/-- The text that bytes encode. -/
def decode (bytes : List UInt8) : Except Failure String := (decodeFrom 0 bytes).map String.ofList

/-- What is wrong, in words. -/
def Failure.message (f : Failure) : String :=
  match f.length? with
  | some n => "invalid utf-8 sequence of " ++ toString n ++ " bytes from index " ++
    toString f.validUpTo
  | none => "incomplete utf-8 byte sequence from index " ++ toString f.validUpTo

end Utf8

end GraphQLCheck
