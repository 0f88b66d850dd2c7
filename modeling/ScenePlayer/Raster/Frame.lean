import ScenePlayer.Bytes.Word

/-!
Finished frames: rows of straight red, green, blue and alpha bytes without
padding. Where the bytes of a pixel are is computed in 64-bit words, before the
bytes are looked at; the computation fails where a word overflows.
-/

namespace ScenePlayer

/-- A number is too large for a word. -/
structure Overflow where
  deriving DecidableEq, Repr

namespace Overflow

/-- The word of a number, if there is one. -/
def word (n : Nat) : Except Overflow UInt64 :=
  if n < UInt64.size then .ok (UInt64.ofNat n) else .error {}

def sum (a b : UInt64) : Except Overflow UInt64 := word (a.toNat + b.toNat)

def product (a b : UInt64) : Except Overflow UInt64 := word (a.toNat * b.toNat)

end Overflow

structure Frame where
  width : UInt32
  height : UInt32
  rgba : Array UInt8
  deriving DecidableEq, Repr

namespace Frame

/-- The index of the first byte of a pixel. -/
def index (frame : Frame) (x y : UInt32) : Except Overflow UInt64 := do
  let above ← Overflow.product y.toUInt64 frame.width.toUInt64
  let number ← Overflow.sum above x.toUInt64
  Overflow.product number 4

/-- The bytes from one index up to another, if there are as many. -/
def slice? (frame : Frame) (start stop : Nat) : Option Bytes :=
  if start ≤ stop ∧ stop ≤ frame.rgba.size then some (frame.rgba.extract start stop).toList
  else none

/-- The four bytes of a pixel. There are none outside the frame, and none where
the bytes end before it. -/
def pixel (frame : Frame) (x y : UInt32) : Except Overflow (Option Bytes) :=
  if frame.width ≤ x ∨ frame.height ≤ y then .ok none
  else do
    let start ← frame.index x y
    let stop ← Overflow.sum start 4
    return frame.slice? start.toNat stop.toNat

/-- Pixels without their alpha; bytes that do not make up a pixel are dropped. -/
def dropAlpha : Bytes → Bytes
  | r :: g :: b :: _ :: rest => r :: g :: b :: dropAlpha rest
  | _ => []

/-- The bytes without alpha. -/
def rgb (frame : Frame) : Bytes := dropAlpha frame.rgba.toList

end Frame

end ScenePlayer
