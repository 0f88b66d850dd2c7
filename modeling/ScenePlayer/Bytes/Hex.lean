import ScenePlayer.Bytes.Word

/-! Bytes as hexadecimal text, two lower-case digits a byte. -/

namespace ScenePlayer

namespace Hex

/-- The digit of a value below 16. -/
def digit (n : Nat) : Char := "0123456789abcdef".toList.getD n '?'

def byte (b : UInt8) : List Char := [digit (b.toNat / 16), digit (b.toNat % 16)]

def encode (bytes : Bytes) : String := String.ofList (bytes.flatMap byte)

/-- The value of a digit of either case. -/
def value (c : Char) : Option Nat :=
  if '0' ≤ c ∧ c ≤ '9' then some (c.toNat - '0'.toNat)
  else if 'a' ≤ c ∧ c ≤ 'f' then some (c.toNat - 'a'.toNat + 10)
  else if 'A' ≤ c ∧ c ≤ 'F' then some (c.toNat - 'A'.toNat + 10)
  else none

def decodeDigits : List Char → Option Bytes
  | [] => some []
  | [_] => none
  | a :: b :: rest => do
      let high ← value a
      let low ← value b
      return UInt8.ofNat (16 * high + low) :: (← decodeDigits rest)

def decode (text : String) : Option Bytes := decodeDigits text.toList

end Hex

end ScenePlayer
