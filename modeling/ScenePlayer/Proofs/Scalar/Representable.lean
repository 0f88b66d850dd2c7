import Mathlib.Algebra.Order.Ring.Nat
import ScenePlayer.Scalar

/-!
Numbers that scalars hold exactly. A number of at most 24 binary digits, at a scale
in range, is the value of the pattern it is rounded to (`Scalar.units_magnitude`), so
16-bit counts of quarters and 16-bit whole numbers become scalars without loss
(`Scalar.exact_ofQuarters`, `Scalar.exact_ofNat`). The value of a scalar is rounded
to the scalar itself, so positive scalars of one value are one (`Scalar.eq_of_exact`).

A pattern `shift * 2^23 + q` stands for the digits `q`, of which the lowest counts
`2^shift` units. There are 24 digits, or fewer where `shift` is 0.
-/

namespace ScenePlayer

theorem Exact.roundHalfEven_mul (whole : Nat) {den : Nat} (positive : 0 < den) :
    roundHalfEven (whole * den) den = whole := by
  simp only [roundHalfEven, Nat.mul_div_cancel whole positive, Nat.mul_mod_left]
  rw [if_neg (by omega)]

namespace Scalar

theorem infinity_eq : infinity = 255 * 2 ^ 23 := rfl

/-! ### Digits and their spacing -/

theorem exists_digits (u : Nat) :
    ∃ shift q, q < 2 ^ 24 ∧ (shift = 0 ∨ 2 ^ 23 ≤ q) ∧ u = shift * 2 ^ 23 + q := by
  by_cases small : u < 2 ^ 23
  · exact ⟨0, u, by omega, .inl rfl, by omega⟩
  · exact ⟨u / 2 ^ 23 - 1, u % 2 ^ 23 + 2 ^ 23, by omega, .inr (by omega), by omega⟩

theorem units_of_digits {q shift : Nat} (high : q < 2 ^ 24) (low : shift = 0 ∨ 2 ^ 23 ≤ q) :
    units (shift * 2 ^ 23 + q) = q * 2 ^ shift := by
  by_cases short : q < 2 ^ 23
  · obtain rfl : shift = 0 := low.resolve_right (by omega)
    rw [Nat.zero_mul, Nat.zero_add, Nat.pow_zero, Nat.mul_one, units, Nat.shiftRight_eq_div_pow,
      Nat.div_eq_of_lt short, if_pos rfl]
  · have exponent : (shift * 2 ^ 23 + q) / 2 ^ 23 = shift + 1 := by omega
    have fraction : (shift * 2 ^ 23 + q) % 2 ^ 23 + 2 ^ 23 = q := by omega
    rw [units, Nat.shiftRight_eq_div_pow, exponent, if_neg (by omega), Nat.one_shiftLeft, fraction,
      Nat.add_sub_cancel, Nat.shiftLeft_eq]

/-- The size of a number fixes the spacing at which it is rounded. -/
theorem spacing_of_digits {q shift : Nat} (high : q < 2 ^ 24) (low : shift = 0 ∨ 2 ^ 23 ≤ q) :
    Nat.log2 (q * 2 ^ shift) - 23 = shift := by
  by_cases zero : q * 2 ^ shift = 0
  · have : q = 0 := (Nat.mul_eq_zero.1 zero).resolve_right (Nat.two_pow_pos shift).ne'
    simp only [zero, Nat.log2_zero]
    omega
  have upper : Nat.log2 (q * 2 ^ shift) < 24 + shift := by
    rw [Nat.log2_lt zero, Nat.pow_add]
    exact Nat.mul_lt_mul_of_pos_right high (Nat.two_pow_pos shift)
  cases low with
  | inl least => omega
  | inr full =>
      have lower : 23 + shift ≤ Nat.log2 (q * 2 ^ shift) := by
        rw [Nat.le_log2 zero, Nat.pow_add]
        exact Nat.mul_le_mul_right _ full
      omega

/-- With the spacing of its size a number has 24 digits, or fewer at the least spacing. -/
theorem digits_of_spacing {q shift : Nat} (nonzero : q * 2 ^ shift ≠ 0)
    (spacing : Nat.log2 (q * 2 ^ shift) - 23 = shift) :
    q < 2 ^ 24 ∧ (shift = 0 ∨ 2 ^ 23 ≤ q) := by
  have upper : q * 2 ^ shift < 2 ^ (Nat.log2 (q * 2 ^ shift) + 1) := Nat.lt_log2_self
  have lower : 2 ^ Nat.log2 (q * 2 ^ shift) ≤ q * 2 ^ shift := Nat.log2_self_le nonzero
  constructor
  · refine Nat.lt_of_mul_lt_mul_right (upper.trans_le ?_)
    rw [← Nat.pow_add]
    exact Nat.pow_le_pow_right (by decide) (by omega)
  · refine (Nat.eq_zero_or_pos shift).imp_right fun coarse => ?_
    have full : 2 ^ 23 * 2 ^ shift ≤ q * 2 ^ shift := by
      rw [← Nat.pow_add]
      exact (Nat.pow_le_pow_right (by decide) (by omega)).trans lower
    exact Nat.le_of_mul_le_mul_right full (Nat.two_pow_pos shift)

/-! ### Rounding without loss -/

/-- Rounding a multiple of its spacing only adds up the exponent and the digits. -/
theorem magnitude_of_spacing {q shift den : Nat} (positive : 0 < den)
    (spacing : Nat.log2 (q * 2 ^ shift) - 23 = shift) :
    magnitude (q * 2 ^ shift * den) den = min infinity (shift * 2 ^ 23 + q) := by
  have scaled : q * 2 ^ shift * den = q * (den * 2 ^ shift) := by
    rw [Nat.mul_assoc, Nat.mul_comm (2 ^ shift)]
  simp only [magnitude, Nat.mul_div_cancel _ positive, spacing, Nat.shiftLeft_eq]
  rw [scaled, Exact.roundHalfEven_mul q (Nat.mul_pos positive (Nat.two_pow_pos shift))]

/-- The value of a finite pattern is rounded to the pattern itself. -/
theorem magnitude_units {u : Nat} (finite : u < infinity) : magnitude (units u) 1 = u := by
  obtain ⟨shift, q, high, low, rfl⟩ := exists_digits u
  have rounded := magnitude_of_spacing Nat.one_pos (spacing_of_digits high low)
  rw [Nat.mul_one] at rounded
  rw [units_of_digits high low, rounded, Nat.min_eq_right finite.le]

/-- A number of at most 24 binary digits is the value of the pattern it is rounded to. -/
theorem units_magnitude {m e den : Nat} (digits : m < 2 ^ 24) (range : e ≤ 253)
    (positive : 0 < den) :
    magnitude (m * 2 ^ e * den) den < infinity ∧
      units (magnitude (m * 2 ^ e * den) den) = m * 2 ^ e := by
  have ceiling := infinity_eq
  by_cases zero : m * 2 ^ e = 0
  · have spacing := spacing_of_digits (by decide : 0 < 2 ^ 24) (.inl rfl)
    have rounded := magnitude_of_spacing positive spacing
    rw [Nat.zero_mul] at rounded
    rw [zero, rounded]
    exact ⟨by omega, rfl⟩
  -- The lowest digit kept stands at `2 ^ shift`, at or below the lowest digit there is.
  generalize size : Nat.log2 (m * 2 ^ e) - 23 = shift
  have below : m * 2 ^ e < 2 ^ (24 + e) := by
    rw [Nat.pow_add]
    exact Nat.mul_lt_mul_of_pos_right digits (Nat.two_pow_pos e)
  have length : Nat.log2 (m * 2 ^ e) < 24 + e := (Nat.log2_lt zero).2 below
  have split : m * 2 ^ e = m * 2 ^ (e - shift) * 2 ^ shift := by
    rw [Nat.mul_assoc, ← Nat.pow_add, Nat.sub_add_cancel (by omega)]
  generalize m * 2 ^ (e - shift) = q at split
  rw [split] at size length zero ⊢
  obtain ⟨high, low⟩ := digits_of_spacing zero size
  rw [magnitude_of_spacing positive size, Nat.min_eq_right (by omega)]
  exact ⟨by omega, units_of_digits high low⟩

/-! ### Scalars of a given value -/

theorem unsigned_lt (x : Scalar) : x.unsigned < 2 ^ 31 := Nat.mod_lt _ (by decide)

theorem lt_of_le_infinity {u : Nat} (bounded : u ≤ infinity) : u < 2 ^ 31 :=
  bounded.trans_lt (by decide)

section Pack

variable (s : Bool) {u : Nat}

theorem toNat_pack (bounded : u < 2 ^ 31) :
    (pack s u).bits.toNat = (if s then 2 ^ 31 else 0) + u := by
  rw [pack, UInt32.toNat_ofNat', Nat.one_shiftLeft, Nat.mod_eq_of_lt]
  split <;> omega

theorem unsigned_pack (bounded : u < 2 ^ 31) : (pack s u).unsigned = u := by
  rw [unsigned, toNat_pack s bounded, Nat.one_shiftLeft]
  split <;> omega

theorem negative_pack (bounded : u < 2 ^ 31) : (pack s u).negative = s := by
  rw [negative, toNat_pack s bounded, Nat.one_shiftLeft]
  cases s with
  | false => exact decide_eq_false (by simp only [Bool.false_eq_true, if_false]; omega)
  | true => exact decide_eq_true (by simp only [if_true]; omega)

theorem isNaN_pack (bounded : u ≤ infinity) : (pack s u).isNaN = false := by
  rw [isNaN, unsigned_pack s (lt_of_le_infinity bounded), decide_eq_false bounded.not_gt]

end Pack

/-- A finite scalar denotes the units of its pattern. -/
theorem exact_of_finite {x : Scalar} (finite : x.unsigned < infinity) :
    x.exact = .finite x.negative (units x.unsigned) := by
  have number : x.isNaN = false := decide_eq_false finite.not_gt
  rw [exact, number, if_neg Bool.false_ne_true, if_neg finite.ne]

/-- A packed finite pattern denotes its units. -/
theorem exact_pack (s : Bool) {u : Nat} (finite : u < infinity) :
    (pack s u).exact = .finite s (units u) := by
  have bounded := lt_of_le_infinity finite.le
  have pattern := unsigned_pack s bounded
  rw [exact_of_finite (by rwa [pattern]), negative_pack s bounded, pattern]

/-- A scalar of positive sign is made from its value. -/
theorem ofExact_of_exact {x : Scalar} {n : Nat} (value : x.exact = .finite false n) :
    ofExact 1 (.finite false n) = x := by
  have ceiling := infinity_eq
  unfold exact at value
  split at value
  · cases value
  · rename_i number
    split at value
    · cases value
    · rename_i bounded
      obtain ⟨positive, rfl⟩ : x.negative = false ∧ units x.unsigned = n := by simpa using value
      have finite : x.unsigned < infinity := by
        simp only [isNaN, decide_eq_true_eq] at number
        omega
      have whole : x.unsigned = x.bits.toNat := by
        simp only [negative, Nat.one_shiftLeft, decide_eq_false_iff_not] at positive
        rw [unsigned, Nat.one_shiftLeft, Nat.mod_eq_of_lt (by omega)]
      rw [ofExact, magnitude_units finite, pack, whole]
      simp

/-- Scalars of positive sign and one value are one scalar. -/
theorem eq_of_exact {x y : Scalar} {n : Nat} (left : x.exact = .finite false n)
    (right : y.exact = .finite false n) : x = y := by
  rw [← ofExact_of_exact left, ofExact_of_exact right]

/-- The scalar made of `m * 2^e` is that number. -/
theorem exact_ofExact {m e den : Nat} (digits : m < 2 ^ 24) (range : e ≤ 253) (positive : 0 < den) :
    (ofExact den (.finite false (m * 2 ^ e * den))).exact = .finite false (m * 2 ^ e) := by
  obtain ⟨finite, value⟩ := units_magnitude digits range positive
  rw [ofExact, exact_pack false finite, value]

/-- A count of quarters is held as a quarter of it. -/
theorem exact_ofQuarters (n : UInt16) : (ofQuarters n).exact = .finite false (n.toNat <<< 147) := by
  have bound := n.toNat_lt
  have quarter : n.toNat <<< 149 = n.toNat * 2 ^ 147 * 4 := by
    rw [Nat.shiftLeft_eq]
    omega
  rw [ofQuarters, quarter, Nat.shiftLeft_eq]
  exact exact_ofExact (by omega) (by decide) (by decide)

/-- A 16-bit number is held unchanged. -/
theorem exact_ofNat (n : UInt16) : (ofNat n.toNat).exact = .finite false (n.toNat <<< 149) := by
  have bound := n.toNat_lt
  have value := exact_ofExact (by omega : n.toNat < 2 ^ 24) (by decide : 149 ≤ 253) Nat.one_pos
  rw [Nat.mul_one, ← Nat.shiftLeft_eq] at value
  exact value

end Scalar

end ScenePlayer
