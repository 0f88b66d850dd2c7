import ScenePlayer.Script.Instruction

/-!
The keys under which shaders of gradients are cached: the bit patterns of their
scalars and their packed colours. No two gradients share a key
(`Gradient.key_injective`), patterns of no number and signed zeros included.
-/

namespace ScenePlayer

/-- The channels of a colour as one word, red first. -/
def Colour.word (c : Colour) : UInt32 := Bytes.join32 c.red c.green c.blue c.alpha

/-- The kind of a gradient, and six words that describe it. -/
inductive GradientKey where
  | linear (words : Vector UInt32 6)
  | radial (words : Vector UInt32 6)
  deriving DecidableEq, Repr

/-- What the shader of a gradient is cached under. -/
def Gradient.key : Gradient → GradientKey
  | .linear start stop startColour stopColour =>
      .linear #v[start.x.bits, start.y.bits, stop.x.bits, stop.y.bits, startColour.word,
        stopColour.word]
  | .radial centre innerRadius outerRadius innerColour outerColour =>
      .radial #v[centre.x.bits, centre.y.bits, innerRadius.bits, outerRadius.bits,
        innerColour.word, outerColour.word]

theorem Colour.word_injective {c d : Colour} (same : c.word = d.word) : c = d := by
  have bytes := congrArg Bytes.word32 same
  simp only [word, Bytes.word32_join32, List.cons.injEq, and_true] at bytes
  cases c
  cases d
  simp_all

theorem Scalar.eq_of_bits {x y : Scalar} (same : x.bits = y.bits) : x = y := by
  cases x
  cases y
  exact congrArg Scalar.mk same

theorem Point.eq_of_bits {p q : Point} (left : p.x.bits = q.x.bits) (right : p.y.bits = q.y.bits) :
    p = q := by
  cases p
  cases q
  rw [Point.mk.injEq]
  exact ⟨Scalar.eq_of_bits left, Scalar.eq_of_bits right⟩

theorem Gradient.key_injective {g h : Gradient} (same : g.key = h.key) : g = h := by
  cases g with
  | linear =>
      cases h with
      | linear =>
          simp [key] at same
          obtain ⟨startX, startY, stopX, stopY, first, second⟩ := same
          rw [Point.eq_of_bits startX startY, Point.eq_of_bits stopX stopY,
            Colour.word_injective first, Colour.word_injective second]
      | radial => simp [key] at same
  | radial =>
      cases h with
      | linear => simp [key] at same
      | radial =>
          simp [key] at same
          obtain ⟨centreX, centreY, inner, outer, first, second⟩ := same
          rw [Point.eq_of_bits centreX centreY, Scalar.eq_of_bits inner,
            Scalar.eq_of_bits outer, Colour.word_injective first, Colour.word_injective second]

end ScenePlayer
