import ScenePlayer.Geometry.Shape
import ScenePlayer.Scalar.Decimal

/-!
Outlines: finished paths, a run of segments with the box around their points.

The box is computed from the points two at a time, with a pair of running
minima and maxima seeded by the first point (of an odd number) or the first two
(of an even number). Only the points after the seed are checked to be finite;
a seed coordinate that is no number is ignored by the minima and maxima.
-/

namespace ScenePlayer

inductive Segment where
  | move (target : Point)
  | line (target : Point)
  | quad (control target : Point)
  | cubic (control₁ control₂ target : Point)
  | close
  deriving DecidableEq, Repr

/-- The points of a segment in drawing order. -/
def Segment.points : Segment → List Point
  | .move p => [p]
  | .line p => [p]
  | .quad c p => [c, p]
  | .cubic c₁ c₂ p => [c₁, c₂, p]
  | .close => []

/-- An axis-parallel box. -/
structure Bounds where
  left : Scalar
  top : Scalar
  right : Scalar
  bottom : Scalar
  deriving DecidableEq, Repr

namespace Point

def isFinite (p : Point) : Bool := p.x.isFinite && p.y.isFinite

def least (p q : Point) : Point := ⟨p.x.least q.x, p.y.least q.y⟩

def greatest (p q : Point) : Point := ⟨p.x.greatest q.x, p.y.greatest q.y⟩

end Point

namespace Bounds

/-- Running minima and maxima of the points at either place of a pair. -/
structure Extremes where
  low₁ : Point
  low₂ : Point
  high₁ : Point
  high₂ : Point

def Extremes.seed (p q : Point) : Extremes := ⟨p, q, p, q⟩

/-- Take in a pair of points. -/
def Extremes.take (e : Extremes) (p q : Point) : Extremes :=
  ⟨e.low₁.least p, e.low₂.least q, e.high₁.greatest p, e.high₂.greatest q⟩

/-- Take in the points pair by pair; all of them have to be finite. -/
def Extremes.takeAll (e : Extremes) : List Point → Option Extremes
  | p :: q :: rest => if p.isFinite && q.isFinite then (e.take p q).takeAll rest else none
  | _ => some e

/-- The extremes of a run of points, seeded so that pairs remain. -/
def extremes : List Point → Option Extremes
  | [] => none
  | p :: rest =>
      if rest.length % 2 = 0 then (Extremes.seed p p).takeAll rest
      else
        match rest with
        | [] => none
        | q :: rest => (Extremes.seed p q).takeAll rest

/-- The greatest finite scalar in units of 2^-149. -/
def greatestUnits : Nat := 0xffffff <<< 253

/-- The value of a finite scalar in units of 2^-149. -/
def signedUnits (x : Scalar) : Int :=
  if x.negative then -(Scalar.units x.unsigned : Int) else Scalar.units x.unsigned

/-- Whether the distance from `low` up to `high`, rounded to double precision,
is less than the greatest finite scalar: the last distance that is not rounded
up to it lies 2^74, or 2^223 units, below. -/
def fits (low high : Scalar) : Bool :=
  decide (signedUnits high - signedUnits low < (greatestUnits - (1 <<< 223) : Nat))

/-- A box with finite sides in order and of representable extent. -/
def make? (left top right bottom : Scalar) : Option Bounds :=
  if left.isFinite && top.isFinite && right.isFinite && bottom.isFinite && decide (left ≤ right)
      && decide (top ≤ bottom) && fits left right && fits top bottom then
    some ⟨left, top, right, bottom⟩
  else none

/-- The box around a run of points. -/
def around (points : List Point) : Option Bounds := do
  let e ← extremes points
  make? (e.low₁.x.least e.low₂.x) (e.low₁.y.least e.low₂.y)
    (e.high₁.x.greatest e.high₂.x) (e.high₁.y.greatest e.high₂.y)

end Bounds

/-- A finished path. -/
structure Outline where
  segments : List Segment
  bounds : Bounds
  deriving DecidableEq, Repr

namespace Outline

/-- The outline of a run of segments: there have to be at least two of them and
a box around their points. -/
def ofSegments (segments : List Segment) : Option Outline :=
  match segments with
  | _ :: _ :: _ => (Bounds.around (segments.flatMap Segment.points)).map (⟨segments, ·⟩)
  | _ => none

/-- The path data of a segment: a verb and its coordinates. -/
def segmentText (segment : Segment) : String :=
  let verb := match segment with
    | .move _ => "M"
    | .line _ => "L"
    | .quad .. => "Q"
    | .cubic .. => "C"
    | .close => "Z"
  " ".intercalate (verb :: segment.points.flatMap fun p => [p.x.decimal, p.y.decimal])

/-- The path data of an outline. -/
def text (outline : Outline) : String := " ".intercalate (outline.segments.map segmentText)

end Outline

end ScenePlayer
