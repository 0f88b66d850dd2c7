import Mathlib.Data.Nat.Log
import ScenePlayer.Proofs.Scalar.Representable

/-!
The order of scalars. Patterns are numbered in the order of their values
(`Scalar.units_strictMono`), and a greater number is never rounded to a lesser pattern
(`Scalar.magnitude_mono`). So a number is not rounded past a scalar, and the sum of a scalar and a
greater one of the other sign lies between zero and that one (`Scalar.between_add`).

A scalar that is a number has a rank, and numbers compare as their ranks do. Minima and maxima
bound both of their operands, where these are numbers (`Scalar.least_le`, `Scalar.le_greatest`).
-/

namespace ScenePlayer

/-! ### Rounding and order -/

namespace Exact

theorem roundHalfEven_le {num den bound : Nat} (positive : 0 < den) (le : num ≤ bound * den) :
    roundHalfEven num den ≤ bound := by
  have split := Nat.div_add_mod num den
  have whole : num / den ≤ bound := Nat.div_le_of_le_mul (by rwa [Nat.mul_comm])
  rcases whole.lt_or_eq with below | exact
  · simp only [roundHalfEven]
    split <;> omega
  · have none : num % den = 0 := by
      rw [exact, Nat.mul_comm] at split
      omega
    simp only [roundHalfEven, none, exact]
    rw [if_neg (by omega)]

theorem roundHalfEven_mono {m n : Nat} (le : m ≤ n) (den : Nat) :
    roundHalfEven m den ≤ roundHalfEven n den := by
  have wholes : m / den ≤ n / den := Nat.div_le_div_right le
  have lesser := Nat.div_add_mod m den
  have greater := Nat.div_add_mod n den
  rcases wholes.lt_or_eq with below | same
  · simp only [roundHalfEven]
    split <;> split <;> omega
  · rw [same] at lesser
    have rests : m % den ≤ n % den := by omega
    simp only [roundHalfEven, same]
    split <;> split <;> omega

end Exact

namespace Scalar

/-- Patterns are numbered in the order of their values. -/
theorem units_strictMono : StrictMono units := by
  intro u v less
  obtain ⟨s, q, high, low, rfl⟩ := exists_digits u
  obtain ⟨t, r, high', low', rfl⟩ := exists_digits v
  rw [units_of_digits high low, units_of_digits high' low']
  rcases Nat.lt_trichotomy s t with finer | rfl | coarser
  · calc q * 2 ^ s < 2 ^ 24 * 2 ^ s := Nat.mul_lt_mul_of_pos_right high (Nat.two_pow_pos s)
      _ = 2 ^ 23 * 2 ^ (s + 1) := by rw [Nat.pow_succ]; omega
      _ ≤ r * 2 ^ t := Nat.mul_le_mul (low'.resolve_left (by omega))
        (Nat.pow_le_pow_right (by decide) finer)
  · exact Nat.mul_lt_mul_of_pos_right (by omega) (Nat.two_pow_pos s)
  · have full := low.resolve_left (by omega)
    omega

theorem magnitude_le_infinity (num den : Nat) : magnitude num den ≤ infinity := Nat.min_le_left ..

/-- A greater number is not rounded to a lesser pattern. -/
theorem magnitude_mono {m n : Nat} (le : m ≤ n) {den : Nat} (positive : 0 < den) :
    magnitude m den ≤ magnitude n den := by
  have quotients : m / den ≤ n / den := Nat.div_le_div_right le
  have logs : Nat.log2 (m / den) ≤ Nat.log2 (n / den) := by
    simp only [Nat.log2_eq_log_two]
    exact Nat.log_mono_right quotients
  simp only [magnitude, Nat.shiftLeft_eq]
  refine min_le_min_left _ ?_
  generalize fine : Nat.log2 (m / den) - 23 = s
  generalize coarse : Nat.log2 (n / den) - 23 = t
  rcases (show s ≤ t by omega).lt_or_eq with finer | rfl
  · -- The lesser number has at most 2^24 steps of its size, the greater one at least 2^23.
    have steps (digits shift : Nat) :
        2 ^ (digits + shift) * den = 2 ^ digits * (den * 2 ^ shift) := by
      rw [Nat.pow_add, Nat.mul_assoc, Nat.mul_comm (2 ^ shift)]
    have upper : m < 2 ^ 24 * (den * 2 ^ s) := by
      rw [← steps, ← Nat.div_lt_iff_lt_mul positive]
      exact Nat.lt_log2_self.trans_le (Nat.pow_le_pow_right (by decide) (by omega))
    have lower : 2 ^ 23 * (den * 2 ^ t) ≤ n := by
      have nonzero : n / den ≠ 0 := by
        intro zero
        rw [zero, Nat.log2_zero] at coarse
        omega
      have size := Nat.log2_self_le nonzero
      rwa [show Nat.log2 (n / den) = 23 + t by omega, Nat.le_div_iff_mul_le positive, steps] at size
    have most := Exact.roundHalfEven_le (Nat.mul_pos positive (Nat.two_pow_pos s)) upper.le
    have least := Exact.roundHalfEven_mono lower (den * 2 ^ t)
    rw [Exact.roundHalfEven_mul _ (Nat.mul_pos positive (Nat.two_pow_pos t))] at least
    omega
  · exact Nat.add_le_add_left (Exact.roundHalfEven_mono le _) _

/-- A number is not rounded past a finite pattern. -/
theorem magnitude_le {n u : Nat} (le : n ≤ units u) (finite : u < infinity) : magnitude n 1 ≤ u :=
  (magnitude_mono le Nat.one_pos).trans_eq (magnitude_units finite)

/-! ### Comparison by rank -/

variable {x y z : Scalar}

theorem le_iff_rank : x ≤ y ↔ x.isNaN = false ∧ y.isNaN = false ∧ x.rank ≤ y.rank := by
  change x.atMost y = true ↔ _
  simp only [atMost, Bool.and_eq_true, Bool.not_eq_true', decide_eq_true_eq, and_assoc]

theorem lt_iff_rank : x < y ↔ x.isNaN = false ∧ y.isNaN = false ∧ x.rank < y.rank := by
  change x.less y = true ↔ _
  simp only [less, Bool.and_eq_true, Bool.not_eq_true', decide_eq_true_eq, and_assoc]

@[simp] theorem rank_zero : (0 : Scalar).rank = 0 := by decide

@[simp] theorem isNaN_zero : (0 : Scalar).isNaN = false := by decide

theorem rank_neg_iff : x.rank < 0 ↔ x.negative = true ∧ x.unsigned ≠ 0 := by
  rw [rank]
  cases x.negative <;> simp [Nat.pos_iff_ne_zero]

theorem rank_pos_iff : 0 < x.rank ↔ x.negative = false ∧ x.unsigned ≠ 0 := by
  rw [rank]
  cases x.negative <;> simp [Nat.pos_iff_ne_zero]

/-- Only the zeros have the rank of zero. -/
theorem equal_zero_iff : x.equal 0 = true ↔ x.unsigned = 0 := by
  have ceiling := infinity_eq
  rw [equal, isNaN_zero, rank_zero, Bool.and_eq_true, Bool.and_eq_true, decide_eq_true_iff]
  simp only [isNaN, rank, Bool.not_eq_true', Bool.not_false, and_true, decide_eq_false_iff_not]
  split <;> omega

@[simp] theorem unsigned_abs (x : Scalar) : x.abs.unsigned = x.unsigned :=
  unsigned_pack false x.unsigned_lt

@[simp] theorem negative_abs (x : Scalar) : x.abs.negative = false :=
  negative_pack false x.unsigned_lt

@[simp] theorem isNaN_abs (x : Scalar) : x.abs.isNaN = x.isNaN := by
  rw [isNaN, unsigned_abs, isNaN]

theorem rank_abs (x : Scalar) : x.abs.rank = x.unsigned := by
  rw [rank, negative_abs, unsigned_abs, if_neg Bool.false_ne_true]

/-- Numbers of positive sign compare as their units do. -/
theorem le_iff_units (left : x.isNaN = false ∧ x.negative = false)
    (right : y.isNaN = false ∧ y.negative = false) :
    x ≤ y ↔ units x.unsigned ≤ units y.unsigned := by
  rw [le_iff_rank, rank, rank, left.1, left.2, right.1, right.2, units_strictMono.le_iff_le]
  simp

/-! ### Extremes -/

theorem le_self (number : x.isNaN = false) : x ≤ x := le_iff_rank.2 ⟨number, number, le_rfl⟩

/-- The smaller of two scalars is at most what one of them is at most. -/
theorem least_le (bound : x ≤ z ∨ y ≤ z) : x.least y ≤ z := by
  rw [le_iff_rank, le_iff_rank] at bound
  rw [least]
  split
  · rename_i none
    rw [le_iff_rank]
    rcases bound with ⟨number, -⟩ | right
    · exact absurd none (Bool.eq_false_iff.1 number)
    · exact right
  · rename_i number
    rw [Bool.not_eq_true] at number
    split
    all_goals
      rename_i order
      rw [lt_iff_rank] at order
      rw [le_iff_rank]
      grind

/-- The greater of two scalars is at least what one of them is at least. -/
theorem le_greatest (bound : z ≤ x ∨ z ≤ y) : z ≤ x.greatest y := by
  rw [le_iff_rank, le_iff_rank] at bound
  rw [greatest]
  split
  · rename_i none
    rw [le_iff_rank]
    rcases bound with ⟨-, number, -⟩ | right
    · exact absurd none (Bool.eq_false_iff.1 number)
    · exact right
  · rename_i number
    rw [Bool.not_eq_true] at number
    split
    all_goals
      rename_i order
      rw [lt_iff_rank] at order
      rw [le_iff_rank]
      grind

theorem isNaN_of_isFinite (finite : x.isFinite = true) : x.isNaN = false :=
  decide_eq_false (of_decide_eq_true finite).not_gt

/-- What lies between finite scalars is finite. -/
theorem isFinite_of_le_of_le (low : x ≤ y) (high : y ≤ z) (least : x.isFinite = true)
    (most : z.isFinite = true) : y.isFinite = true := by
  rw [le_iff_rank, rank, rank] at low high
  rw [isFinite, decide_eq_true_eq] at *
  have lower := low.2.2
  have upper := high.2.2
  split at lower <;> split at lower <;> split at upper <;> omega

/-! ### Sums between zero and a summand -/

/-- A scalar lies between zero and a number. -/
structure Between (x y : Scalar) : Prop where
  number : x.isNaN = false
  least : min 0 y.rank ≤ x.rank
  most : x.rank ≤ max 0 y.rank

theorem between_of_le (number : x.isNaN = false) (same : x.negative = y.negative ∨ x.unsigned = 0)
    (less : x.unsigned ≤ y.unsigned) : Between x y := by
  refine ⟨number, ?_, ?_⟩
  all_goals
    rw [rank, rank]
    rcases same with sign | zero
    · rw [sign]
      split <;> omega
    · rw [zero]
      split <;> omega

theorem between_pack {u : Nat} (less : u ≤ y.unsigned) (bounded : y.unsigned ≤ infinity) :
    Between (pack y.negative u) y := by
  have within := lt_of_le_infinity (less.trans bounded)
  refine between_of_le (isNaN_pack _ (less.trans bounded)) (.inl (negative_pack _ within)) ?_
  rwa [unsigned_pack _ within]

/-- The sum of a scalar and a greater one of the other sign lies between zero and that one. -/
theorem between_add (opposite : x.negative ≠ y.negative) (less : x.unsigned ≤ y.unsigned)
    (finite : y.unsigned < infinity) : Between (x + y) y := by
  have sum : x + y = ofExact 1 ((Exact.finite x.negative (units x.unsigned)).add
      (.finite y.negative (units y.unsigned))) := by
    change x.add y = _
    rw [add, exact_of_finite (less.trans_lt finite), exact_of_finite finite]
  have smaller := units_strictMono.monotone less
  rw [sum, Exact.add, if_neg opposite, if_neg smaller.not_gt]
  split
  · exact between_pack (magnitude_le (Nat.sub_le _ _) finite) finite.le
  · exact between_of_le rfl (.inr rfl) (Nat.zero_le _)

end Scalar

end ScenePlayer
