import ScenePlayer.Raster.Contour
import ScenePlayer.State.DrawState

/-!
Strokes: the pieces that a pen of some width covers along contours. Every line
sweeps a rectangle; joins and caps are pieces of their own. All pieces turn the
same way, so under the non-zero winding rule they cover their union.
-/

namespace ScenePlayer

/-- A pen that sweeps lines. -/
structure Brush where
  /-- Half of the width. -/
  radius : Float
  cap : LineCap
  join : LineJoin
  /-- How long a miter may be, in widths. -/
  miterLimit : Float

namespace Brush

def ofStyle (style : StrokeStyle) : Brush :=
  ⟨style.width.toFloat / 2, style.cap, style.join, style.miterLimit.toFloat⟩

/-- The direction from one spot to another, of length 1. -/
def direction (p q : Spot) : Spot :=
  let d := q.sub p
  d.scale (1 / d.length)

/-- The number of corners with which a disc is drawn. -/
def discCorners : Nat := 128

/-- The disc around a spot. -/
def disc (brush : Brush) (centre : Spot) : Polygon :=
  (List.range discCorners).map fun i =>
    let angle := i.toFloat * (Scalar.tau.toFloat / discCorners.toFloat)
    centre.add ⟨brush.radius * angle.cos, brush.radius * angle.sin⟩

/-- The rectangle along a line. -/
def sweep (brush : Brush) (p q : Spot) : Polygon :=
  let side := (direction p q).right.scale brush.radius
  [p.add side, q.add side, q.sub side, p.sub side]

/-- From this cosine of their angle on, two lines count as one. -/
def straight : Float := 0.999

/-- The piece that fills the outside of a corner. A miter longer than its limit
is cut to a bevel. -/
def corner (brush : Brush) (before spot after : Spot) : Polygon :=
  let d := direction before spot
  let e := direction spot after
  let reach := if 0 < d.cross e then -brush.radius else brush.radius
  let p := d.right.scale reach
  let q := e.right.scale reach
  let cosine := d.dot e
  let bevel := [spot, spot.add p, spot.add q]
  if straight ≤ cosine then bevel
  else
    match brush.join with
    | .bevel => bevel
    | .round => brush.disc spot
    | .miter =>
        if 1 < brush.miterLimit && 1 / brush.miterLimit ≤ ((1 + cosine) / 2).sqrt then
          [spot, spot.add p, spot.add ((p.add q).scale (1 / (1 + cosine))), spot.add q]
        else bevel

/-- The piece behind the end of a line that comes from `before`. -/
def ending (brush : Brush) (before spot : Spot) : List Polygon :=
  let ahead := (direction before spot).scale brush.radius
  let side := ahead.right
  match brush.cap with
  | .butt => []
  | .round => [brush.disc spot]
  | .square =>
      [[spot.add side, (spot.add side).add ahead, (spot.sub side).add ahead, spot.sub side]]

/-- The piece of a contour without length. -/
def dot (brush : Brush) (spot : Spot) : List Polygon :=
  let r := brush.radius
  match brush.cap with
  | .butt => []
  | .round => [brush.disc spot]
  | .square => [[spot.add ⟨-r, -r⟩, spot.add ⟨r, -r⟩, spot.add ⟨r, r⟩, spot.add ⟨-r, r⟩]]

/-- The rectangles along a run of spots. -/
def sweeps (brush : Brush) : List Spot → List Polygon
  | p :: q :: rest => brush.sweep p q :: sweeps brush (q :: rest)
  | _ => []

/-- The corners inside a run of spots. -/
def corners (brush : Brush) : List Spot → List Polygon
  | p :: q :: r :: rest => brush.corner p q r :: corners brush (q :: r :: rest)
  | _ => []

end Brush

/-- Twice the area of a polygon; positive if it turns right on the screen. -/
def Polygon.doubleArea : Polygon → Float
  | [] => 0
  | p :: rest =>
      let corners := (p :: rest).zip (rest ++ [p])
      corners.foldl (fun sum side => sum + side.1.cross side.2) 0

/-- The polygon, turning right. -/
def Polygon.turnedRight (polygon : Polygon) : Polygon :=
  if polygon.doubleArea < 0 then polygon.reverse else polygon

/-- Both coordinates are equal. -/
def Spot.same (p q : Spot) : Bool := p.x == q.x && p.y == q.y

/-- The spots without those equal to the one before them, which is `last` for
the first of them. -/
def dropRepeats (last : Spot) : List Spot → List Spot
  | [] => []
  | p :: rest => if p.same last then dropRepeats last rest else p :: dropRepeats p rest

namespace Contour

/-- The spots of a contour that differ from their neighbours. -/
def corners (contour : Contour) : List Spot :=
  match contour.spots with
  | [] => []
  | p :: rest =>
      let kept := p :: dropRepeats p rest
      if contour.closed && 1 < kept.length && (kept.getLastD p).same p then kept.dropLast else kept

/-- The pieces that a brush covers along a contour. A contour that is a lone
move has none. -/
def pieces (brush : Brush) (contour : Contour) : List Polygon :=
  match contour.corners with
  | [] => []
  | [p] => if contour.closed || 1 < contour.spots.length then brush.dot p else []
  | p :: q :: rest =>
      let spots := p :: q :: rest
      if contour.closed then
        brush.sweeps (spots ++ [p]) ++ brush.corners (spots ++ [p, q])
      else
        let back := spots.reverse
        brush.sweeps spots ++ brush.corners spots ++ brush.ending q p ++
          brush.ending (back.getD 1 p) (back.getD 0 p)

end Contour

/-- The polygons that a stroke covers. -/
def Outline.strokePolygons (style : StrokeStyle) (outline : Outline) : List Polygon :=
  (outline.contours.flatMap (Contour.pieces (Brush.ofStyle style))).map Polygon.turnedRight

end ScenePlayer
