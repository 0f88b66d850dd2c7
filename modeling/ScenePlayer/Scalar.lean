import ScenePlayer.Scalar.Exact

/-!
Single-precision scalars. A scalar is its 32-bit pattern: a sign bit, eight
exponent bits and 23 fraction bits. Patterns are kept whole, so scalars that
are no number stay apart by their payload, and equality of scalars is equality
of patterns; comparison of the numbers they denote is `<`, `≤` and `Scalar.equal`.

Every finite scalar is a whole number of units of 2^-149. Sums, products and
quotients are formed exactly on that grid and rounded once, to the nearest
scalar, ties to the even pattern (`Scalar.magnitude`).
-/

namespace ScenePlayer

/-- A single-precision number, as its bit pattern. -/
structure Scalar where
  bits : UInt32
  deriving DecidableEq, Repr, Inhabited

namespace Scalar

/-- The pattern without its sign bit. -/
def unsigned (x : Scalar) : Nat := x.bits.toNat % (1 <<< 31)

def negative (x : Scalar) : Bool := decide (1 <<< 31 ≤ x.bits.toNat)

/-- The unsigned pattern of the infinities; above it lie the patterns of no number. -/
def infinity : Nat := 255 <<< 23

def isNaN (x : Scalar) : Bool := decide (infinity < x.unsigned)

def isFinite (x : Scalar) : Bool := decide (x.unsigned < infinity)

/-- The scalar with the given sign and unsigned pattern. -/
def pack (negative : Bool) (unsigned : Nat) : Scalar :=
  ⟨UInt32.ofNat ((if negative then 1 <<< 31 else 0) + unsigned)⟩

/-- The pattern given for results that are no number. -/
def nan : Scalar := ⟨0x7fc00000⟩

/-- How many units of 2^-149 the finite unsigned pattern `n` denotes. -/
def units (n : Nat) : Nat :=
  if n >>> 23 = 0 then n else (n % (1 <<< 23) + (1 <<< 23)) <<< (n >>> 23 - 1)

/-- The number a scalar denotes, in units of 2^-149. -/
def exact (x : Scalar) : Exact :=
  if x.isNaN then .nan
  else if x.unsigned = infinity then .infinite x.negative
  else .finite x.negative (units x.unsigned)

/-- The unsigned pattern nearest to `num / den` units of 2^-149. Since patterns
are numbered in the order of their values, the rounded fraction and the
exponent simply add up, and a carry runs into the exponent. -/
def magnitude (num den : Nat) : Nat :=
  let shift := Nat.log2 (num / den) - 23
  min infinity (shift <<< 23 + Exact.roundHalfEven num (den <<< shift))

/-- The scalar nearest to an exact number of which `unit` make up 2^-149. -/
def ofExact (unit : Nat) : Exact → Scalar
  | .nan => nan
  | .infinite s => pack s infinity
  | .finite s n => pack s (magnitude n unit)

def ofNat (n : Nat) : Scalar := ofExact 1 (.finite false (n <<< 149))

instance (n : Nat) : OfNat Scalar n := ⟨ofNat n⟩

/-! ### Arithmetic -/

def neg (x : Scalar) : Scalar := pack (!x.negative) x.unsigned

def abs (x : Scalar) : Scalar := pack false x.unsigned

def add (x y : Scalar) : Scalar := ofExact 1 (x.exact.add y.exact)

def mul (x y : Scalar) : Scalar := ofExact (1 <<< 149) (x.exact.mul y.exact)

def div (x y : Scalar) : Scalar :=
  match x.exact, y.exact with
  | .nan, _ => nan
  | _, .nan => nan
  | .infinite _, .infinite _ => nan
  | .infinite s, .finite t _ => pack (s != t) infinity
  | .finite s _, .infinite t => pack (s != t) 0
  | .finite s m, .finite t n =>
      if n = 0 then (if m = 0 then nan else pack (s != t) infinity)
      else pack (s != t) (magnitude (m <<< 149) n)

instance : Neg Scalar := ⟨neg⟩

instance : Add Scalar := ⟨add⟩

instance : Sub Scalar := ⟨fun x y => x.add y.neg⟩

instance : Mul Scalar := ⟨mul⟩

instance : Div Scalar := ⟨div⟩

/-- `p * q + r * s` in double precision, then rounded to a scalar. The products
are exact there, so the sum is rounded twice: to 53 digits and to a scalar. -/
def sumOfProducts (p q r s : Scalar) : Scalar :=
  ofExact (1 <<< 149) (((p.exact.mul q.exact).add (r.exact.mul s.exact)).roundTo 53)

/-! ### Comparison -/

/-- Numbers compare as their signed patterns do; both zeros have rank 0. -/
def rank (x : Scalar) : Int := if x.negative then -(x.unsigned : Int) else x.unsigned

/-- Both are numbers, and the first is smaller. -/
def less (x y : Scalar) : Bool := !x.isNaN && !y.isNaN && decide (x.rank < y.rank)

/-- Both are numbers, and the first is not greater. -/
def atMost (x y : Scalar) : Bool := !x.isNaN && !y.isNaN && decide (x.rank ≤ y.rank)

/-- Both are the same number, zeros of either sign included. -/
def equal (x y : Scalar) : Bool := !x.isNaN && !y.isNaN && decide (x.rank = y.rank)

instance : LT Scalar := ⟨fun x y => x.less y = true⟩

instance : LE Scalar := ⟨fun x y => x.atMost y = true⟩

instance (x y : Scalar) : Decidable (x < y) := inferInstanceAs (Decidable (x.less y = true))

instance (x y : Scalar) : Decidable (x ≤ y) := inferInstanceAs (Decidable (x.atMost y = true))

/-- The smaller number; an operand that is no number is ignored. -/
def least (x y : Scalar) : Scalar :=
  if x.isNaN then y else if y < x then y else x

/-- The greater number; an operand that is no number is ignored. -/
def greatest (x y : Scalar) : Scalar :=
  if x.isNaN then y else if x < y then y else x

/-- Move a number into `[low, high]`; what is no number stays so. -/
def clamp (x low high : Scalar) : Scalar :=
  if x < low then low else if high < x then high else x

/-! ### Quarter units and whole parts -/

/-- The scalar `n / 4`. -/
def ofQuarters (n : UInt16) : Scalar := ofExact 4 (.finite false (n.toNat <<< 149))

/-- The number of quarters nearest to `x`, halves away from zero, in 16 bits:
negative numbers give 0, as does what is no number, and great ones 65535. -/
def quarters (x : Scalar) : UInt16 :=
  match x.exact with
  | .nan => 0
  | .infinite s => if s then 0 else 65535
  | .finite s n => if s then 0 else UInt16.ofNat (min 65535 ((n + (1 <<< 146)) >>> 147))

/-- The whole part of a number that is not negative; 0 for all else. -/
def whole (x : Scalar) : Nat :=
  match x.exact with
  | .finite false n => n >>> 149
  | _ => 0

/-! ### Double precision and the elementary functions -/

def ofFloat32 (x : Float32) : Scalar := ⟨x.toBits⟩

def toFloat32 (x : Scalar) : Float32 := Float32.ofBits x.bits

/-- The same number in double precision. -/
def toFloat (x : Scalar) : Float := x.toFloat32.toFloat

def sin (x : Scalar) : Scalar := ofFloat32 x.toFloat32.sin

def cos (x : Scalar) : Scalar := ofFloat32 x.toFloat32.cos

def tan (x : Scalar) : Scalar := ofFloat32 x.toFloat32.tan

def acos (x : Scalar) : Scalar := ofFloat32 x.toFloat32.acos

/-- The angle of the direction `(x, y)`. -/
def atan2 (y x : Scalar) : Scalar := ofFloat32 (y.toFloat32.atan2 x.toFloat32)

/-- The length of `(x, y)`, formed in double precision; an infinite side gives
an infinite length, even beside what is no number. -/
def hypot (x y : Scalar) : Scalar :=
  if x.unsigned = infinity ∨ y.unsigned = infinity then pack false infinity
  else ofFloat32 (x.toFloat * x.toFloat + y.toFloat * y.toFloat).sqrt.toFloat32

/-- A full turn in radians. -/
def tau : Scalar := ⟨0x40c90fdb⟩

/-- A quarter turn in radians. -/
def quarterTurn : Scalar := ⟨0x3fc90fdb⟩

/-- The distance from 1 to the next scalar. -/
def epsilon : Scalar := ⟨0x34000000⟩

end Scalar

end ScenePlayer
