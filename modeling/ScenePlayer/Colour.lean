import ScenePlayer.Bytes.Word
import ScenePlayer.Scalar

/-! Colours as straight red, green, blue and alpha bytes. -/

namespace ScenePlayer

/-- A colour whose channels are not multiplied by its alpha. -/
structure Colour where
  red : UInt8
  green : UInt8
  blue : UInt8
  alpha : UInt8
  deriving DecidableEq, Repr, Inhabited

namespace Colour

def black : Colour := ⟨0, 0, 0, 255⟩

def white : Colour := ⟨255, 255, 255, 255⟩

def transparent : Colour := ⟨0, 0, 0, 0⟩

def toList (c : Colour) : Bytes := [c.red, c.green, c.blue, c.alpha]

/-- The colour whose channels are the bytes of a word, red first. -/
def ofWord (w : UInt32) : Colour :=
  match Bytes.word32 w with
  | [r, g, b, a] => ⟨r, g, b, a⟩
  | _ => transparent

/-- A channel as a fraction of one. -/
def fraction (channel : UInt8) : Scalar := Scalar.ofNat channel.toNat / 255

end Colour

end ScenePlayer
