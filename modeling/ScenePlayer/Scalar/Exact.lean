/-!
Exact numbers with infinities: the values between two roundings. A finite
number is a sign and a count of units; what one unit is worth is the caller's
choice, so sums need equal units and a product's unit is the product of units.
The sign of a zero is kept, because scalars keep it.
-/

namespace ScenePlayer

/-- An exact number, an infinity, or no number at all. -/
inductive Exact where
  | nan
  | infinite (negative : Bool)
  | finite (negative : Bool) (size : Nat)
  deriving DecidableEq, Repr

namespace Exact

/-- Opposite numbers cancel to the positive zero; zeros of one sign keep it. -/
def add : Exact → Exact → Exact
  | .nan, _ => .nan
  | _, .nan => .nan
  | .infinite s, .infinite t => if s = t then .infinite s else .nan
  | .infinite s, .finite _ _ => .infinite s
  | .finite _ _, .infinite t => .infinite t
  | .finite s m, .finite t n =>
      if s = t then .finite s (m + n)
      else if n < m then .finite s (m - n)
      else if m < n then .finite t (n - m)
      else .finite false 0

/-- An infinity times zero is no number; otherwise signs multiply. -/
def mul : Exact → Exact → Exact
  | .nan, _ => .nan
  | _, .nan => .nan
  | .infinite s, .infinite t => .infinite (s != t)
  | .infinite s, .finite t n => if n = 0 then .nan else .infinite (s != t)
  | .finite s m, .infinite t => if m = 0 then .nan else .infinite (s != t)
  | .finite s m, .finite t n => .finite (s != t) (m * n)

/-- The quotient rounded to an integer, ties to the even one. -/
def roundHalfEven (num den : Nat) : Nat :=
  let whole := num / den
  let rest := 2 * (num % den)
  if den < rest ∨ (rest = den ∧ whole % 2 = 1) then whole + 1 else whole

/-- Round to at most `digits` significant binary digits, ties to even. -/
def roundTo (digits : Nat) : Exact → Exact
  | .finite s n =>
      let unit := 1 <<< (Nat.log2 n + 1 - digits)
      .finite s (roundHalfEven n unit * unit)
  | other => other

end Exact

end ScenePlayer
