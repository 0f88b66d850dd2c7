import ScenePlayer.Raster.Mask
import ScenePlayer.Raster.Plane

/-!
Which pixels lie inside closed polygons. A pixel is inside if its centre is, by
the non-zero winding rule: along each row of centres the edges that cross it
are met from left to right, and the stretches with a winding number other than
zero are inside. A pixel is covered wholly or not at all.
-/

namespace ScenePlayer

/-- A directed side of a polygon. -/
structure Side where
  start : Spot
  stop : Spot

namespace Polygon

/-- The sides behind `p` of a polygon whose last corner is joined to `first`. -/
def sidesFrom (first p : Spot) : List Spot → List Side
  | [] => [⟨p, first⟩]
  | q :: rest => ⟨p, q⟩ :: sidesFrom first q rest

/-- The sides of a polygon, the one that closes it included. -/
def sides : Polygon → List Side
  | [] => []
  | p :: rest => sidesFrom p p rest

end Polygon

/-- Where a side crosses a row, and which way: 1 down, -1 up. -/
structure Crossing where
  x : Float
  turn : Int

/-- The crossing of a side with the row at height `y`. Of the heights of its
ends, the upper one counts and the lower one does not, so a crossing at a
corner is met once. -/
def Side.crossing? (y : Float) (side : Side) : Option Crossing :=
  let p := side.start
  let q := side.stop
  let x := p.x + (y - p.y) * (q.x - p.x) / (q.y - p.y)
  if p.y ≤ y && y < q.y then some ⟨x, 1⟩
  else if q.y ≤ y && y < p.y then some ⟨x, -1⟩
  else none

/-- A run of columns of a row, the end not included. -/
structure Span where
  start : Nat
  stop : Nat

def Span.holds (column : Nat) (span : Span) : Bool :=
  decide (span.start ≤ column) && decide (column < span.stop)

/-- The first column, up to `width`, whose centre does not lie left of `x`. -/
def columnFrom (width : Nat) (x : Float) : Nat := min width (x - 0.5).ceil.toUInt64.toNat

/-- The columns inside, from crossings in order. `winding` is the winding number
on the left of them, and `start` is the column at which it left zero. -/
def spans (width : Nat) : (winding : Int) → (start : Nat) → List Crossing → List Span
  | _, _, [] => []
  | winding, start, crossing :: rest =>
      let column := columnFrom width crossing.x
      let after := winding + crossing.turn
      if winding = 0 then spans width after column rest
      else if after = 0 then ⟨start, column⟩ :: spans width after column rest
      else spans width after start rest

/-- The columns of row `y` inside polygons with the given sides. -/
def rowSpans (width : Nat) (sides : List Side) (y : Nat) : List Span :=
  let crossings := sides.filterMap (Side.crossing? (y.toFloat + 0.5))
  spans width 0 0 (crossings.mergeSort fun a b => decide (a.x ≤ b.x))

/-- The pixels whose centres lie inside polygons. -/
def Mask.ofPolygons (width height : Nat) (polygons : List Polygon) : Mask :=
  let sides := polygons.flatMap Polygon.sides
  let rows := Array.ofFn fun y : Fin height => rowSpans width sides y.val
  .tabulate width height fun x y =>
    if (rows.getD y []).any (Span.holds x) then 255 else 0

end ScenePlayer
