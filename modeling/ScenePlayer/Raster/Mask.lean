import ScenePlayer.Bytes.Word

/-!
Masks: how much of each pixel is covered, from 0 to 255, row by row.
-/

namespace ScenePlayer

structure Mask where
  width : Nat
  height : Nat
  cells : Array UInt8
  deriving DecidableEq, Repr

namespace Mask

/-- The mask in which pixel `(x, y)` has the value `f x y`. -/
def tabulate (width height : Nat) (f : Nat → Nat → UInt8) : Mask where
  width
  height
  cells := Array.ofFn fun i : Fin (width * height) => f (i.val % width) (i.val / width)

/-- The mask that covers everything. -/
def full (width height : Nat) : Mask where
  width
  height
  cells := Array.replicate (width * height) 255

/-- The mask that covers nothing. -/
def empty (width height : Nat) : Mask where
  width
  height
  cells := Array.replicate (width * height) 0

/-- Part of a coverage, as 255ths of it, rounded to the nearest. -/
def part (cover keep : UInt8) : UInt8 := UInt8.ofNat ((cover.toNat * keep.toNat + 127) / 255)

def bytes (mask : Mask) : Bytes := mask.cells.toList

end Mask

end ScenePlayer
