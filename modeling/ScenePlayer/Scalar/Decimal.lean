import ScenePlayer.Scalar

/-!
Scalars as decimal text with three places: the exact value rounded once, ties
to even. A result of zero carries no sign.
-/

namespace ScenePlayer

namespace Scalar

/-- A count of thousandths with its point: `12345` is written `12.345`. -/
def thousandths (n : Nat) : String :=
  let places := toString (n % 1000)
  toString (n / 1000) ++ "." ++ String.ofList (List.replicate (3 - places.length) '0') ++ places

/-- The decimal text of a scalar. -/
def decimal (x : Scalar) : String :=
  match x.exact with
  | .nan => "nan"
  | .infinite s => if s then "-inf" else "inf"
  | .finite s n =>
      let rounded := Exact.roundHalfEven (n * 1000) (1 <<< 149)
      (if s ∧ rounded ≠ 0 then "-" else "") ++ thousandths rounded

end Scalar

end ScenePlayer
