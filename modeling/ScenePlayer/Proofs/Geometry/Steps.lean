import ScenePlayer.Geometry.Pen

/-!
Steps of a pen. Every operation on a path comes down to three: a move, a segment drawn from the
current point, and a close behind one. So what these three keep is kept by every step
(`Pen.Kept.take`), and it holds after any steps from a fresh path on (`Pen.Kept.ofSteps`).

The verbs of a path are what is left of it without its coordinates. A move may take the place of
another, and a segment behind a close brings a move along (`Pen.addMove_cases`,
`Pen.addDrawing_cases`). So a line adds a move and a line at most, or a move alone
(`Pen.joined_lineTo`). A pen that stands behind a segment adds just what it is told
(`Pen.Ready`).
-/

namespace ScenePlayer

/-! ### Verbs -/

/-- A segment without its points. -/
inductive Verb where
  | move
  | line
  | quad
  | cubic
  | close
  deriving DecidableEq, Repr

namespace Verb

/-- How many points a verb needs. -/
def size : Verb → Nat
  | .move => 1
  | .line => 1
  | .quad => 2
  | .cubic => 3
  | .close => 0

def draws : Verb → Bool
  | .move => false
  | .line => true
  | .quad => true
  | .cubic => true
  | .close => false

end Verb

namespace Segment

def verb : Segment → Verb
  | .move _ => .move
  | .line _ => .line
  | .quad .. => .quad
  | .cubic .. => .cubic
  | .close => .close

/-- Where a move goes. -/
def target? : Segment → Option Point
  | .move p => some p
  | _ => none

/-- Where a drawing segment ends. -/
def stop? : Segment → Option Point
  | .line p => some p
  | .quad _ p => some p
  | .cubic _ _ p => some p
  | _ => none

theorem length_points (segment : Segment) : segment.points.length = segment.verb.size := by
  cases segment <;> rfl

end Segment

/-! ### What a step adds to a trail -/

namespace Pen

/-- The verbs of a trail in drawing order. -/
def verbsOf (trail : List Segment) : List Verb := trail.reverse.map Segment.verb

def verbs (pen : Pen) : List Verb := verbsOf pen.trail

@[simp] theorem verbsOf_cons (segment : Segment) (trail : List Segment) :
    verbsOf (segment :: trail) = verbsOf trail ++ [segment.verb] := by
  rw [verbsOf, List.reverse_cons, List.map_append, List.map_singleton, verbsOf]

/-- The head of a trail is no close. -/
def IsOpen (trail : List Segment) : Prop := trail.head? ≠ some .close

/-- A move takes the place of a move; behind anything else it is added. -/
theorem addMove_cases (p : Point) (trail : List Segment) :
    (∃ q rest, trail = .move q :: rest ∧ addMove p trail = .move p :: rest) ∨
      addMove p trail = .move p :: trail := by
  unfold addMove
  split
  · exact .inl ⟨_, _, rfl, rfl⟩
  · exact .inr rfl

theorem addDrawing_of_isOpen (segment : Segment) {trail : List Segment} (unclosed : IsOpen trail) :
    addDrawing segment trail = segment :: trail := by
  unfold addDrawing
  split
  · exact absurd rfl unclosed
  · rfl

/-- A drawing segment is added; behind a close a move comes first. -/
theorem addDrawing_cases (segment : Segment) (trail : List Segment) :
    (∃ rest, trail = .close :: rest ∧
      addDrawing segment trail = segment :: .move (latestMove rest) :: .close :: rest) ∨
      IsOpen trail ∧ addDrawing segment trail = segment :: trail := by
  by_cases unclosed : IsOpen trail
  · exact .inr ⟨unclosed, addDrawing_of_isOpen segment unclosed⟩
  · obtain ⟨rest, rfl⟩ := List.head?_eq_some_iff.1 (Decidable.not_not.1 unclosed)
    exact .inl ⟨rest, rfl, rfl⟩

theorem close_of_current {pen : Pen} (set : pen.current ≠ none) :
    pen.close = { pen with trail := addClose pen.trail, current := pen.start } := by
  obtain ⟨p, set⟩ := Option.ne_none_iff_exists'.1 set
  rw [close, set]

/-- The pen stands behind a move or a drawing segment. -/
structure Ready (pen : Pen) : Prop where
  current : pen.current ≠ none
  unclosed : ∃ head rest, pen.trail = head :: rest ∧ head ≠ .close

/-- Some of the given verbs were added, in their order, and the pen stands behind a segment. -/
structure Joined (lead : List Verb) (before after : Pen) : Prop where
  ready : after.Ready
  verbs : ∃ front, front.Sublist lead ∧ after.verbs = before.verbs ++ front

theorem joined_moveTo (p : Point) (pen : Pen) : Joined [.move] pen (pen.moveTo p) := by
  rcases addMove_cases p pen.trail with ⟨q, rest, replaced, moved⟩ | moved
  · refine ⟨⟨Option.some_ne_none p, _, _, moved, Segment.noConfusion⟩, [], List.nil_sublist _, ?_⟩
    rw [verbs, moveTo, moved, verbs, replaced, verbsOf_cons, verbsOf_cons, List.append_nil]
    rfl
  · refine ⟨⟨Option.some_ne_none p, _, _, moved, Segment.noConfusion⟩, [.move],
      List.Sublist.refl _, ?_⟩
    rw [verbs, moveTo, moved, verbsOf_cons]
    rfl

theorem joined_drawTo {segment : Segment} {p : Point} (stops : segment.stop? = some p) (pen : Pen) :
    Joined [.move, segment.verb] pen (pen.drawTo segment p) := by
  have unclosed : segment ≠ .close := by
    rintro rfl
    cases stops
  rcases addDrawing_cases segment pen.trail with ⟨rest, closed, drawn⟩ | ⟨_, drawn⟩
  · refine ⟨⟨Option.some_ne_none p, _, _, drawn, unclosed⟩, [.move, segment.verb],
      List.Sublist.refl _, ?_⟩
    rw [verbs, drawTo, drawn, verbs, closed, verbsOf_cons, verbsOf_cons, List.append_assoc]
    rfl
  · refine ⟨⟨Option.some_ne_none p, _, _, drawn, unclosed⟩, [segment.verb],
      List.sublist_cons_self _ _, ?_⟩
    rw [verbs, drawTo, drawn, verbsOf_cons]
    rfl

theorem joined_lineTo (p : Point) (pen : Pen) : Joined [.move, .line] pen (pen.lineTo p) := by
  unfold lineTo
  split
  · obtain ⟨ready, front, within, verbs⟩ := joined_moveTo p pen
    exact ⟨ready, front, within.trans (by decide), verbs⟩
  · have stops : (Segment.line p).stop? = some p := rfl
    exact joined_drawTo stops pen

namespace Ready

variable {pen : Pen} (ready : pen.Ready)

include ready

theorem isOpen : IsOpen pen.trail := by
  obtain ⟨head, rest, trail, unclosed⟩ := ready.unclosed
  rw [IsOpen, trail]
  exact fun closed => unclosed (Option.some.inj closed)

theorem verbs_drawTo (segment : Segment) (p : Point) :
    (pen.drawTo segment p).verbs = pen.verbs ++ [segment.verb] := by
  rw [verbs, drawTo, addDrawing_of_isOpen segment ready.isOpen, verbsOf_cons, verbs]

theorem ensureCurrent (p : Point) : pen.ensureCurrent p = pen := by
  obtain ⟨q, set⟩ := Option.ne_none_iff_exists'.1 ready.current
  rw [Pen.ensureCurrent, set]

theorem verbs_lineTo (p : Point) : (pen.lineTo p).verbs = pen.verbs ++ [.line] := by
  obtain ⟨q, set⟩ := Option.ne_none_iff_exists'.1 ready.current
  rw [lineTo, set]
  exact ready.verbs_drawTo _ _

theorem verbs_close : pen.close.verbs = pen.verbs ++ [.close] := by
  obtain ⟨head, rest, trail, unclosed⟩ := ready.unclosed
  rw [close_of_current ready.current, verbs, verbs, trail]
  cases head with
  | close => exact absurd rfl unclosed
  | move | line | quad | cubic => exact verbsOf_cons _ _

theorem cubicTo (control₁ control₂ p : Point) :
    (pen.cubicTo control₁ control₂ p).Ready ∧
      (pen.cubicTo control₁ control₂ p).verbs = pen.verbs ++ [.cubic] := by
  rw [Pen.cubicTo, ready.ensureCurrent]
  exact ⟨(joined_drawTo rfl pen).ready, ready.verbs_drawTo _ _⟩

end Ready

end Pen

/-! ### Steps -/

/-- One operation on a path under construction. -/
inductive PenStep where
  | moveTo (p : Point)
  | lineTo (p : Point)
  | quadTo (control p : Point)
  | cubicTo (control₁ control₂ p : Point)
  | close
  | arc (centre : Point) (radius start stop : Scalar) (turn : Turn)
  | arcTo (tangent stop : Point) (radius : Scalar)
  | addShape (shape : Shape)
  deriving DecidableEq, Repr

def PenStep.take : PenStep → Pen → Pen
  | .moveTo p => Pen.moveTo p
  | .lineTo p => Pen.lineTo p
  | .quadTo control p => Pen.quadTo control p
  | .cubicTo control₁ control₂ p => Pen.cubicTo control₁ control₂ p
  | .close => Pen.close
  | .arc centre radius start stop turn => Pen.arc centre radius start stop turn
  | .arcTo tangent stop radius => Pen.arcTo tangent stop radius
  | .addShape shape => Pen.addShape shape

namespace Pen

/-- The path after the given steps, taken in order on a fresh one. -/
def ofSteps (steps : List PenStep) : Pen := steps.foldl (fun pen step => step.take pen) {}

/-- A property that moves keep, and segments and closes behind a current point. -/
structure Kept (P : Pen → Prop) : Prop where
  move : ∀ {pen : Pen}, P pen → ∀ p, P (pen.moveTo p)
  draw : ∀ {pen : Pen}, P pen → pen.current ≠ none → ∀ {segment : Segment} {p : Point},
    segment.stop? = some p → P (pen.drawTo segment p)
  shut : ∀ {pen : Pen}, P pen → pen.current ≠ none → P pen.close

theorem current_ensureCurrent (p : Point) (pen : Pen) : (pen.ensureCurrent p).current ≠ none := by
  unfold ensureCurrent
  split
  · exact Option.some_ne_none p
  · rename_i set
    rw [set]
    exact Option.some_ne_none _

namespace Kept

variable {P : Pen → Prop} (kept : Kept P) {pen : Pen}

include kept

theorem lineTo (before : P pen) (p : Point) : P (pen.lineTo p) := by
  unfold Pen.lineTo
  split
  · exact kept.move before p
  · rename_i set
    exact kept.draw before (set ▸ Option.some_ne_none _) rfl

theorem ensureCurrent (before : P pen) (p : Point) : P (pen.ensureCurrent p) := by
  unfold Pen.ensureCurrent
  split
  · exact kept.move before p
  · exact before

theorem quadTo (before : P pen) (control p : Point) : P (pen.quadTo control p) :=
  kept.draw (kept.ensureCurrent before control) (current_ensureCurrent control pen) rfl

theorem cubicTo (before : P pen) (control₁ control₂ p : Point) :
    P (pen.cubicTo control₁ control₂ p) :=
  kept.draw (kept.ensureCurrent before control₁) (current_ensureCurrent control₁ pen) rfl

theorem close (before : P pen) : P pen.close := by
  cases set : pen.current with
  | none =>
      rw [Pen.close, set]
      exact before
  | some _ => exact kept.shut before (set ▸ Option.some_ne_none _)

theorem arcSegments (centre : Point) (radius step handle : Scalar) (count : Nat) (angle : Scalar)
    (p : Point) (before : P pen) : P (pen.arcSegments centre radius step handle count angle p) := by
  induction count generalizing angle p pen with
  | zero => exact before
  | succ count ih => exact ih _ _ (kept.cubicTo before _ _ _)

theorem arcSweep (centre : Point) (radius start sweep : Scalar) (connect : Bool) (before : P pen) :
    P (pen.arcSweep centre radius start sweep connect) := by
  have joined : P (if connect then pen.lineTo (onCircle centre radius.abs start)
      else pen.moveTo (onCircle centre radius.abs start)) := by
    split
    · exact kept.lineTo before _
    · exact kept.move before _
  simp only [Pen.arcSweep]
  split
  · exact joined
  · exact kept.arcSegments _ _ _ _ _ _ _ joined

theorem arc (centre : Point) (radius start stop : Scalar) (turn : Turn) (before : P pen) :
    P (pen.arc centre radius start stop turn) :=
  kept.arcSweep _ _ _ _ _ before

theorem arcTo (tangent stop : Point) (radius : Scalar) (before : P pen) :
    P (pen.arcTo tangent stop radius) := by
  have line := kept.lineTo before tangent
  unfold Pen.arcTo
  split
  · exact kept.move before tangent
  · split
    · simp only
      split
      · exact line
      · split
        · exact line
        · split <;> exact kept.arc _ _ _ _ _ before
    · exact line

theorem polygon (points : List Point) (before : P pen) : P (pen.polygon points) := by
  cases points with
  | nil => exact before
  | cons p rest =>
      refine kept.close (?_ : P (rest.foldl _ _))
      exact rest.foldlRecOn _ (kept.move before p) fun _ drawn q _ => kept.lineTo drawn q

theorem ellipse (radiusX radiusY : Scalar) (before : P pen) : P (pen.ellipse radiusX radiusY) := by
  simp only [Pen.ellipse]
  refine kept.close ?_
  iterate 4 refine kept.cubicTo ?_ _ _ _
  exact kept.move before _

theorem roundedRect (width height : Scalar) (radii : CornerRadii) (before : P pen) :
    P (pen.roundedRect width height radii) := by
  simp only [Pen.roundedRect]
  refine kept.close ?_
  iterate 4 refine kept.cubicTo (kept.lineTo ?_ _) _ _ _
  exact kept.move before _

theorem addShape (shape : Shape) (before : P pen) : P (pen.addShape shape) := by
  unfold Pen.addShape
  cases shape with
  | line p q => exact kept.lineTo (kept.move before p) q
  | triangle | quad | rect => exact kept.polygon _ before
  | roundedRect | corneredRect => exact kept.roundedRect _ _ _ before
  | arc => exact kept.arcSweep _ _ _ _ _ before
  | sector => exact kept.close (kept.arcSweep _ _ _ _ _ (kept.move before _))
  | circle | ellipse => exact kept.ellipse _ _ before

/-- What moves, segments and closes keep is kept by every step. -/
theorem take (step : PenStep) (before : P pen) : P (step.take pen) := by
  cases step with
  | moveTo p => exact kept.move before p
  | lineTo p => exact kept.lineTo before p
  | quadTo control p => exact kept.quadTo before control p
  | cubicTo control₁ control₂ p => exact kept.cubicTo before control₁ control₂ p
  | close => exact kept.close before
  | arc => exact kept.arc _ _ _ _ _ before
  | arcTo => exact kept.arcTo _ _ _ before
  | addShape shape => exact kept.addShape shape before

/-- It holds after any steps on a fresh path if it holds of that path. -/
theorem ofSteps (fresh : P {}) (steps : List PenStep) : P (Pen.ofSteps steps) :=
  steps.foldlRecOn _ fresh fun _ before step _ => kept.take step before

end Kept

end Pen

end ScenePlayer
