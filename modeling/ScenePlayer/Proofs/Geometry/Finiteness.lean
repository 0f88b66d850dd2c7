import ScenePlayer.Proofs.Geometry.Steps
import ScenePlayer.Proofs.Scalar.Order

/-!
What the box around a path says of its points. The running minima and maxima ignore what is no
number, so in the end they span every coordinate that is one (`Bounds.Extremes.Holds`). The sides of
a box are finite, and so no coordinate of a finished path is infinite.

A coordinate that is no number is found out where points are checked, which is everywhere but at
the seed. So the points of a finished path are finite up to the seed, and there if and only if the
seed is made of numbers (`Outline.Boxed`). A path whose seed is not can be finished all the same.
-/

namespace ScenePlayer

namespace Bounds

/-! ### What the extremes span -/

/-- The coordinates of a point that are numbers lie between those of two others. -/
structure Spans (low high p : Point) : Prop where
  x : p.x.isNaN = false → low.x ≤ p.x ∧ p.x ≤ high.x
  y : p.y.isNaN = false → low.y ≤ p.y ∧ p.y ≤ high.y

variable {low high p q : Point}

theorem spans_self (p : Point) : Spans p p p :=
  ⟨fun number => ⟨Scalar.le_self number, Scalar.le_self number⟩,
    fun number => ⟨Scalar.le_self number, Scalar.le_self number⟩⟩

namespace Spans

/-- A span that is widened still spans what it did. -/
theorem widen (spans : Spans low high p) (q r : Point) : Spans (low.least q) (high.greatest r) p :=
  ⟨fun number => ⟨Scalar.least_le (.inl (spans.x number).1),
      Scalar.le_greatest (.inl (spans.x number).2)⟩,
    fun number => ⟨Scalar.least_le (.inl (spans.y number).1),
      Scalar.le_greatest (.inl (spans.y number).2)⟩⟩

/-- It also spans what it is widened to. -/
theorem widened (spans : Spans low high p) (q r : Point) :
    Spans (q.least low) (r.greatest high) p :=
  ⟨fun number => ⟨Scalar.least_le (.inr (spans.x number).1),
      Scalar.le_greatest (.inr (spans.x number).2)⟩,
    fun number => ⟨Scalar.least_le (.inr (spans.y number).1),
      Scalar.le_greatest (.inr (spans.y number).2)⟩⟩

end Spans

namespace Extremes

/-- The extremes at one of the places span the point. -/
def Holds (e : Extremes) (p : Point) : Prop := Spans e.low₁ e.high₁ p ∨ Spans e.low₂ e.high₂ p

variable {e f : Extremes} {points : List Point}

theorem holds_take (p q : Point) {r : Point} (holds : e.Holds r ∨ r = p ∨ r = q) :
    (e.take p q).Holds r := by
  rcases holds with (first | second) | rfl | rfl
  · exact .inl (first.widen _ _)
  · exact .inr (second.widen _ _)
  · exact .inl ((spans_self _).widened _ _)
  · exact .inr ((spans_self _).widened _ _)

/-- Extremes keep what they hold, and they hold the pairs that they took in, which are finite. -/
theorem takeAll_spec (taken : e.takeAll points = some f) (paired : points.length % 2 = 0) :
    (∀ p, e.Holds p → f.Holds p) ∧ ∀ p ∈ points, f.Holds p ∧ p.isFinite = true := by
  fun_induction takeAll e points with
  | case1 e p q rest finite ih =>
      rw [Bool.and_eq_true] at finite
      rw [List.length_cons, List.length_cons] at paired
      obtain ⟨kept, held⟩ := ih taken (by omega)
      refine ⟨fun r holds => kept r (holds_take p q (.inl holds)), ?_⟩
      rintro r (_ | ⟨_, _ | ⟨_, later⟩⟩)
      · exact ⟨kept _ (holds_take _ _ (.inr (.inl rfl))), finite.1⟩
      · exact ⟨kept _ (holds_take _ _ (.inr (.inr rfl))), finite.2⟩
      · exact held r later
  | case2 => cases taken
  | case3 rest e short =>
      obtain rfl := Option.some.inj taken
      have exhausted : rest = [] := by
        match rest, paired, short with
        | [], _, _ => rfl
        | p :: q :: rest, _, short => exact (short p q rest rfl).elim
      exact ⟨fun _ holds => holds, by simp [exhausted]⟩

theorem holds_seed (p q : Point) : (seed p q).Holds p ∧ (seed p q).Holds q :=
  ⟨.inl (spans_self p), .inr (spans_self q)⟩

end Extremes

/-- How many points seed the extremes. -/
def seeds (points : List Point) : Nat := 2 - points.length % 2

/-- The extremes hold every point, and behind the seed all points are finite. -/
theorem extremes_spec {points : List Point} {e : Extremes} (found : extremes points = some e) :
    (∀ p ∈ points, e.Holds p) ∧ ∀ p ∈ points.drop (seeds points), p.isFinite = true := by
  unfold extremes at found
  split at found
  · cases found
  · rename_i p rest
    split at found
    · rename_i paired
      obtain ⟨kept, held⟩ := Extremes.takeAll_spec found paired
      have seeded : seeds (p :: rest) = 1 := by
        rw [seeds, List.length_cons]
        omega
      rw [seeded]
      have seed := Extremes.holds_seed p p
      exact ⟨List.forall_mem_cons.2 ⟨kept p seed.1, fun r later => (held r later).1⟩,
        fun r later => (held r later).2⟩
    · rename_i unpaired
      split at found
      · cases found
      · rename_i q rest
        rw [List.length_cons] at unpaired
        obtain ⟨kept, held⟩ := Extremes.takeAll_spec found (by omega)
        have seeded : seeds (p :: q :: rest) = 2 := by
          rw [seeds, List.length_cons, List.length_cons]
          omega
        rw [seeded]
        have seed := Extremes.holds_seed p q
        exact ⟨List.forall_mem_cons.2 ⟨kept p seed.1, List.forall_mem_cons.2
            ⟨kept q seed.2, fun r later => (held r later).1⟩⟩,
          fun r later => (held r later).2⟩

/-- A box has the sides that it is made of, and they are finite. -/
theorem make?_spec {left top right bottom : Scalar} {box : Bounds}
    (made : make? left top right bottom = some box) :
    box = ⟨left, top, right, bottom⟩ ∧ left.isFinite = true ∧ top.isFinite = true ∧
      right.isFinite = true ∧ bottom.isFinite = true := by
  unfold make? at made
  split at made
  · rename_i sound
    simp only [Bool.and_eq_true] at sound
    exact ⟨(Option.some.inj made).symm, by tauto⟩
  · cases made

end Bounds

/-! ### What a box says of the points -/

namespace Outline

/-- The points of an outline in drawing order. -/
def points (outline : Outline) : List Point := outline.segments.flatMap Segment.points

/-- What the box of an outline says of its points. The box is finite, every coordinate that is a
number lies within it, and behind the seed every point is finite. -/
structure Boxed (outline : Outline) : Prop where
  left : outline.bounds.left.isFinite = true
  top : outline.bounds.top.isFinite = true
  right : outline.bounds.right.isFinite = true
  bottom : outline.bounds.bottom.isFinite = true
  inside : ∀ p ∈ outline.points,
    Bounds.Spans ⟨outline.bounds.left, outline.bounds.top⟩
      ⟨outline.bounds.right, outline.bounds.bottom⟩ p
  checked : ∀ p ∈ outline.points.drop (Bounds.seeds outline.points), p.isFinite = true

theorem boxed_of_ofSegments {segments : List Segment} {outline : Outline}
    (made : ofSegments segments = some outline) : outline.Boxed := by
  unfold ofSegments at made
  split at made
  · rename_i first second rest
    obtain ⟨box, around, rfl⟩ := Option.map_eq_some_iff.1 made
    obtain ⟨e, found, framed⟩ := Option.bind_eq_some_iff.1 around
    obtain ⟨rfl, left, top, right, bottom⟩ := Bounds.make?_spec framed
    obtain ⟨held, checked⟩ := Bounds.extremes_spec found
    refine ⟨left, top, right, bottom, fun p inside => ?_, checked⟩
    rcases held p inside with first | second
    · exact first.widen _ _
    · exact second.widened _ _
  · cases made

namespace Boxed

variable {outline : Outline} (boxed : outline.Boxed)

include boxed

/-- No coordinate is infinite: those that are numbers are finite. -/
theorem isFinite_iff {p : Point} (inside : p ∈ outline.points) :
    p.isFinite = true ↔ p.x.isNaN = false ∧ p.y.isNaN = false := by
  have spans := boxed.inside p inside
  rw [Point.isFinite, Bool.and_eq_true]
  exact ⟨fun ⟨x, y⟩ => ⟨Scalar.isNaN_of_isFinite x, Scalar.isNaN_of_isFinite y⟩,
    fun ⟨x, y⟩ => ⟨Scalar.isFinite_of_le_of_le (spans.x x).1 (spans.x x).2 boxed.left boxed.right,
      Scalar.isFinite_of_le_of_le (spans.y y).1 (spans.y y).2 boxed.top boxed.bottom⟩⟩

/-- All points are finite if and only if the seed is made of numbers. -/
theorem all_isFinite_iff :
    (∀ p ∈ outline.points, p.isFinite = true) ↔
      ∀ p ∈ outline.points.take (Bounds.seeds outline.points),
        p.x.isNaN = false ∧ p.y.isNaN = false := by
  constructor
  · intro finite p seed
    have inside := List.mem_of_mem_take seed
    exact (boxed.isFinite_iff inside).1 (finite p inside)
  · intro numbers p inside
    rw [← List.take_append_drop (Bounds.seeds outline.points) outline.points,
      List.mem_append] at inside
    rcases inside with seed | later
    · exact (boxed.isFinite_iff (List.mem_of_mem_take seed)).2 (numbers p seed)
    · exact boxed.checked p later

end Boxed

/-- A path that is given out, be it of a shape or after any steps, has a finite box around all of
its coordinates that are numbers. They are all finite if and only if the seed is made of numbers. -/
theorem finite_iff_seed {outline : Outline}
    (made : (∃ shape : Shape, shape.outline? = some outline) ∨
      ∃ steps : List PenStep, (Pen.ofSteps steps).outline? = some outline) :
    outline.Boxed ∧ ((∀ p ∈ outline.points, p.isFinite = true) ↔
      ∀ p ∈ outline.points.take (Bounds.seeds outline.points),
        p.x.isNaN = false ∧ p.y.isNaN = false) := by
  have boxed : outline.Boxed := by
    rcases made with ⟨shape, made⟩ | ⟨steps, made⟩
    · exact boxed_of_ofSegments made
    · exact boxed_of_ofSegments made
  exact ⟨boxed, boxed.all_isFinite_iff⟩

/-- A quad whose first corner is no point of the plane has a path, with the box of the others. -/
theorem finite_iff_seed_of_cornerless_quad :
    ∃ outline : Outline,
      (Shape.quad ⟨Scalar.nan, 0⟩ ⟨4, 0⟩ ⟨4, 4⟩ ⟨0, 4⟩).outline? = some outline ∧
      outline.bounds = ⟨0, 0, 4, 4⟩ ∧ outline.Boxed ∧
      ((∀ p ∈ outline.points, p.isFinite = true) ↔
        ∀ p ∈ outline.points.take (Bounds.seeds outline.points),
          p.x.isNaN = false ∧ p.y.isNaN = false) := by
  have made : (Shape.quad ⟨Scalar.nan, 0⟩ ⟨4, 0⟩ ⟨4, 4⟩ ⟨0, 4⟩).outline? =
      some ⟨[.move ⟨Scalar.nan, 0⟩, .line ⟨4, 0⟩, .line ⟨4, 4⟩, .line ⟨0, 4⟩, .close],
        ⟨0, 0, 4, 4⟩⟩ := by
    decide +kernel
  exact ⟨_, made, rfl, finite_iff_seed (.inl ⟨_, made⟩)⟩

/-- A line from no point of the plane has a path through that point. -/
theorem not_all_finite :
    ¬ ∀ (shape : Shape) (outline : Outline), shape.outline? = some outline →
      ∀ p ∈ outline.points, p.isFinite = true := by
  intro finite
  have made : (Shape.line ⟨Scalar.nan, 0⟩ ⟨1, 1⟩).outline? =
      some ⟨[.move ⟨Scalar.nan, 0⟩, .line ⟨1, 1⟩], ⟨1, 0, 1, 1⟩⟩ := by
    decide +kernel
  have start := finite _ _ made ⟨Scalar.nan, 0⟩ (List.mem_cons_self ..)
  exact absurd start (by decide)

end Outline

end ScenePlayer
