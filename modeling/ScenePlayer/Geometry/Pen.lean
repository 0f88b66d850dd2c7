import ScenePlayer.Geometry.Outline

/-!
The pen: a path under construction. It keeps the segments drawn so far, the
current point and the start of the contour at hand. Drawing without a current
point starts a contour; drawing behind a closed contour starts one where that
contour started. Everything is built from lines and Bézier segments, and a
positive sweep turns clockwise on the screen.

Filling or stroking does not use a path up: `Pen.outline?` can be asked for at
any time.
-/

namespace ScenePlayer

/-- A path under construction. -/
structure Pen where
  /-- The segments drawn so far, latest first. -/
  trail : List Segment := []
  current : Option Point := none
  start : Option Point := none
  deriving DecidableEq, Repr

namespace Pen

/-- The point of the latest move of a trail; the origin if there is none. -/
def latestMove : List Segment → Point
  | [] => ⟨0, 0⟩
  | .move p :: _ => p
  | _ :: rest => latestMove rest

/-- Add a move to a trail; a move right behind a move replaces it. -/
def addMove (p : Point) : List Segment → List Segment
  | .move _ :: rest => .move p :: rest
  | trail => .move p :: trail

/-- Add a drawing segment to a trail; behind a close it needs a move first. -/
def addDrawing (segment : Segment) : List Segment → List Segment
  | .close :: rest => segment :: .move (latestMove rest) :: .close :: rest
  | trail => segment :: trail

/-- Add a close to a trail that has something to close. -/
def addClose : List Segment → List Segment
  | [] => []
  | .close :: rest => .close :: rest
  | trail => .close :: trail

def isEmpty (pen : Pen) : Bool := pen.trail.isEmpty

def segments (pen : Pen) : List Segment := pen.trail.reverse

/-- The finished path so far, if it is drawable. -/
def outline? (pen : Pen) : Option Outline := Outline.ofSegments pen.segments

def moveTo (p : Point) (pen : Pen) : Pen :=
  { trail := addMove p pen.trail, current := some p, start := some p }

/-- Draw a segment that ends at `p`. -/
def drawTo (segment : Segment) (p : Point) (pen : Pen) : Pen :=
  { pen with trail := addDrawing segment pen.trail, current := some p }

/-- Without a current point this only moves. -/
def lineTo (p : Point) (pen : Pen) : Pen :=
  match pen.current with
  | none => pen.moveTo p
  | some _ => pen.drawTo (.line p) p

/-- Start at `p` if there is no current point. -/
def ensureCurrent (p : Point) (pen : Pen) : Pen :=
  match pen.current with
  | none => pen.moveTo p
  | some _ => pen

def quadTo (control p : Point) (pen : Pen) : Pen :=
  (pen.ensureCurrent control).drawTo (.quad control p) p

def cubicTo (control₁ control₂ p : Point) (pen : Pen) : Pen :=
  (pen.ensureCurrent control₁).drawTo (.cubic control₁ control₂ p) p

/-- Close the contour and return to its start. -/
def close (pen : Pen) : Pen :=
  match pen.current with
  | none => pen
  | some _ => { pen with trail := addClose pen.trail, current := pen.start }

/-! ### Arcs -/

/-- The point of a circle at an angle. -/
def onCircle (centre : Point) (radius angle : Scalar) : Point :=
  ⟨centre.x + angle.cos * radius, centre.y + angle.sin * radius⟩

/-- Draw `count` cubic segments that each turn by `step` from `angle` on. The
handles have length `handle`, which is negative where the sweep is. -/
def arcSegments (centre : Point) (radius step handle : Scalar) :
    (count : Nat) → (angle : Scalar) → (p : Point) → Pen → Pen
  | 0, _, _, pen => pen
  | count + 1, angle, p, pen =>
      let next := angle + step
      let q := onCircle centre radius next
      let control₁ : Point := ⟨p.x - angle.sin * handle, p.y + angle.cos * handle⟩
      let control₂ : Point := ⟨q.x + next.sin * handle, q.y - next.cos * handle⟩
      arcSegments centre radius step handle count next q (pen.cubicTo control₁ control₂ q)

/-- How many segments of at most a quarter turn a sweep needs, at most four. -/
def quarterTurns (sweep : Scalar) : Nat :=
  let quarters := sweep.abs / Scalar.quarterTurn
  if quarters ≤ 1 then 1
  else if quarters ≤ 2 then 2
  else if quarters ≤ 3 then 3
  else 4

/-- Sweep along a circle, at most a full turn. The start is joined to the
current point by a line if `connect` asks for it, and moved to otherwise. -/
def arcSweep (centre : Point) (radius start sweep : Scalar) (connect : Bool) (pen : Pen) : Pen :=
  let radius := radius.abs
  let p := onCircle centre radius start
  let pen := if connect then pen.lineTo p else pen.moveTo p
  if sweep.equal 0 || radius.equal 0 || !sweep.isFinite then pen
  else
    let sweep := sweep.clamp (-Scalar.tau) Scalar.tau
    let count := quarterTurns sweep
    let step := sweep / Scalar.ofNat count
    let handle := Scalar.div 4 3 * (step / 4).tan * radius
    arcSegments centre radius step handle count start p pen

/-- The sweep from one angle to another in a given direction, brought into a
single turn. A difference of a full turn or more is a full turn. -/
def sweepBetween (start stop : Scalar) : Turn → Scalar
  | .clockwise =>
      let sweep := stop - start
      if Scalar.tau ≤ sweep.abs then Scalar.tau
      else if sweep < 0 then sweep + Scalar.tau
      else sweep
  | .counterClockwise =>
      let sweep := stop - start
      if Scalar.tau ≤ sweep.abs then -Scalar.tau
      else if 0 < sweep then sweep - Scalar.tau
      else sweep

/-- A circular arc, joined to the current point by a line. -/
def arc (centre : Point) (radius start stop : Scalar) (turn : Turn) (pen : Pen) : Pen :=
  pen.arcSweep centre radius start (sweepBetween start stop turn) true

/-- The unit vector of a direction that is long enough to have one. -/
def direction? (dx dy : Scalar) : Option Point :=
  let length := Scalar.hypot dx dy
  if Scalar.epsilon < length then some ⟨dx / length, dy / length⟩ else none

/-- The farthest that a tangent point may lie from the corner. -/
def farthestTangent : Scalar := 10000

/-- Round the corner at `tangent` between the lines to the current point and to
`stop` by an arc that touches both. Corners that cannot be rounded, for lack of
a direction, of a radius or of a near tangent point, are drawn as a line. -/
def arcTo (tangent stop : Point) (radius : Scalar) (pen : Pen) : Pen :=
  match pen.current with
  | none => pen.moveTo tangent
  | some p =>
      match direction? (p.x - tangent.x) (p.y - tangent.y),
          direction? (stop.x - tangent.x) (stop.y - tangent.y) with
      | some d, some e =>
          if radius ≤ Scalar.epsilon then pen.lineTo tangent
          else
            let angle := ((d.x * e.x + d.y * e.y).clamp (-1) 1).acos
            let distance := radius / (angle / 2).tan
            if !distance.isFinite || decide (farthestTangent < distance) then pen.lineTo tangent
            else if 0 < e.x * d.y - d.x * e.y then
              pen.arc
                ⟨tangent.x + d.x * distance + d.y * radius,
                  tangent.y + d.y * distance - d.x * radius⟩
                radius (Scalar.atan2 d.x (-d.y)) (Scalar.atan2 (-e.x) e.y) .clockwise
            else
              pen.arc
                ⟨tangent.x + d.x * distance - d.y * radius,
                  tangent.y + d.y * distance + d.x * radius⟩
                radius (Scalar.atan2 (-d.x) d.y) (Scalar.atan2 e.x (-e.y)) .counterClockwise
      | _, _ => pen.lineTo tangent

/-! ### Shapes -/

/-- The handle of a cubic quarter circle of radius 1. -/
def quarterHandle : Scalar := ⟨0x3f0d6289⟩

/-- A closed contour through the given points. -/
def polygon : List Point → Pen → Pen
  | [], pen => pen
  | p :: rest, pen => (rest.foldl (fun pen q => pen.lineTo q) (pen.moveTo p)).close

/-- An axis-parallel ellipse around the origin. -/
def ellipse (radiusX radiusY : Scalar) (pen : Pen) : Pen :=
  let rx := radiusX.abs
  let ry := radiusY.abs
  let kx := rx * quarterHandle
  let ky := ry * quarterHandle
  pen.moveTo ⟨rx, 0⟩
    |>.cubicTo ⟨rx, ky⟩ ⟨kx, ry⟩ ⟨0, ry⟩
    |>.cubicTo ⟨-kx, ry⟩ ⟨-rx, ky⟩ ⟨-rx, 0⟩
    |>.cubicTo ⟨-rx, -ky⟩ ⟨-kx, -ry⟩ ⟨0, -ry⟩
    |>.cubicTo ⟨kx, -ry⟩ ⟨rx, -ky⟩ ⟨rx, 0⟩
    |>.close

/-- A rectangle at the origin whose corners are rounded, each radius at most
half of the shorter side. -/
def roundedRect (width height : Scalar) (radii : CornerRadii) (pen : Pen) : Pen :=
  let x := width.least 0
  let y := height.least 0
  let w := width.abs
  let h := height.abs
  let most := (w.least h / 2).greatest 0
  let limit := fun (radius : Scalar) => (radius.greatest 0).least most
  let ul := limit radii.upperLeft
  let ur := limit radii.upperRight
  let lr := limit radii.lowerRight
  let ll := limit radii.lowerLeft
  let rest := 1 - quarterHandle
  pen.moveTo ⟨x, y + ul⟩
    |>.lineTo ⟨x, y + h - ll⟩
    |>.cubicTo ⟨x, y + h - ll * rest⟩ ⟨x + ll * rest, y + h⟩ ⟨x + ll, y + h⟩
    |>.lineTo ⟨x + w - lr, y + h⟩
    |>.cubicTo ⟨x + w - lr * rest, y + h⟩ ⟨x + w, y + h - lr * rest⟩ ⟨x + w, y + h - lr⟩
    |>.lineTo ⟨x + w, y + ur⟩
    |>.cubicTo ⟨x + w, y + ur * rest⟩ ⟨x + w - ur * rest, y⟩ ⟨x + w - ur, y⟩
    |>.lineTo ⟨x + ul, y⟩
    |>.cubicTo ⟨x + ul * rest, y⟩ ⟨x, y + ul * rest⟩ ⟨x, y + ul⟩
    |>.close

/-- Add the contours of a shape. -/
def addShape (shape : Shape) (pen : Pen) : Pen :=
  match shape with
  | .line p q => (pen.moveTo p).lineTo q
  | .triangle a b c => pen.polygon [a, b, c]
  | .quad a b c d => pen.polygon [a, b, c, d]
  | .rect w h => pen.polygon [⟨0, 0⟩, ⟨w, 0⟩, ⟨w, h⟩, ⟨0, h⟩]
  | .roundedRect w h r => pen.roundedRect w h (CornerRadii.uniform r)
  | .corneredRect w h radii => pen.roundedRect w h radii
  | .arc r a => pen.arcSweep ⟨0, 0⟩ r 0 a false
  | .sector r a => ((pen.moveTo ⟨0, 0⟩).arcSweep ⟨0, 0⟩ r 0 a true).close
  | .circle r => pen.ellipse r r
  | .ellipse rx ry => pen.ellipse rx ry

end Pen

/-- The outline of a shape on its own; degenerate shapes have none. -/
def Shape.outline? (shape : Shape) : Option Outline := (Pen.addShape shape {}).outline?

end ScenePlayer
