import ScenePlayer.Bytes.Word

/-!
Text as UTF-8. Reading never fails: each maximal prefix of an ill-formed
sequence becomes one replacement character U+FFFD, and reading goes on behind
it. A lead byte fixes how many bytes follow and the range of the second one
(`Utf8.lead`), which rules out overlong forms, surrogates and values past
U+10FFFF; every later byte lies in 80..BF.
-/

namespace ScenePlayer

namespace Utf8

/-- What a lead byte announces: the bits it contributes, the range of the byte
after it, and how many bytes follow that one. -/
structure Lead where
  bits : Nat
  low : Nat
  high : Nat
  more : Nat

/-- The lead bytes of sequences longer than one byte. -/
def lead (b : UInt8) : Option Lead :=
  let n := b.toNat
  if n < 0xC2 then none
  else if n < 0xE0 then some ⟨n - 0xC0, 0x80, 0xBF, 0⟩
  else if n = 0xE0 then some ⟨0, 0xA0, 0xBF, 1⟩
  else if n = 0xED then some ⟨0xD, 0x80, 0x9F, 1⟩
  else if n < 0xF0 then some ⟨n - 0xE0, 0x80, 0xBF, 1⟩
  else if n = 0xF0 then some ⟨0, 0x90, 0xBF, 2⟩
  else if n < 0xF4 then some ⟨n - 0xF0, 0x80, 0xBF, 2⟩
  else if n = 0xF4 then some ⟨4, 0x80, 0x8F, 2⟩
  else none

/-- Whether `b` may stand where a byte of the range `low..high` is due. -/
def fits (low high : Nat) (b : UInt8) : Bool := decide (low ≤ b.toNat ∧ b.toNat ≤ high)

/-- Append the six payload bits of a following byte. -/
def extend (bits : Nat) (b : UInt8) : Nat := bits * 64 + b.toNat % 64

/-- The character that stands for what cannot be read. -/
def replacement : Char := '\uFFFD'

/-- Read on behind a lead byte: `bits` are the payload so far, the next byte has
to lie in `low..high`, and `more` bytes follow it. The answer is a character and
how many of the bytes belong to it. -/
def follow (bits low high : Nat) : (more : Nat) → Bytes → Char × Nat
  | _, [] => (replacement, 0)
  | 0, b :: _ => if fits low high b then (Char.ofNat (extend bits b), 1) else (replacement, 0)
  | more + 1, b :: rest =>
      if fits low high b then
        let (c, taken) := follow (extend bits b) 0x80 0xBF more rest
        (c, taken + 1)
      else (replacement, 0)

/-- The character that starts with byte `a`, and how many of the bytes behind
`a` belong to it. -/
def character (a : UInt8) (rest : Bytes) : Char × Nat :=
  if a.toNat < 0x80 then (Char.ofNat a.toNat, 0)
  else
    match lead a with
    | none => (replacement, 0)
    | some l => follow l.bits l.low l.high l.more rest

/-- The characters of a buffer behind its first `skip` bytes. -/
def decode : (skip : Nat) → Bytes → List Char
  | _, [] => []
  | skip + 1, _ :: rest => decode skip rest
  | 0, a :: rest => (character a rest).1 :: decode (character a rest).2 rest

/-- The text a buffer reads as. -/
def read (bytes : Bytes) : String := String.ofList (decode 0 bytes)

/-- The bytes a text is written as. -/
def write (text : String) : Bytes := text.toUTF8.data.toList

end Utf8

end ScenePlayer
