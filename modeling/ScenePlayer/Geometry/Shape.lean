import ScenePlayer.Scalar

/-!
Points and the shapes that scripts draw. All shapes but lines, triangles and
quads are anchored at the local origin: rectangles span from it to their width
and height, round shapes are centred on it.
-/

namespace ScenePlayer

structure Point where
  x : Scalar
  y : Scalar
  deriving DecidableEq, Repr, Inhabited

/-- The radii of a rectangle's corners, clockwise from the upper left. -/
structure CornerRadii where
  upperLeft : Scalar
  upperRight : Scalar
  lowerRight : Scalar
  lowerLeft : Scalar
  deriving DecidableEq, Repr

/-- All four corners alike. -/
def CornerRadii.uniform (radius : Scalar) : CornerRadii := ⟨radius, radius, radius, radius⟩

inductive Shape where
  | line (start stop : Point)
  | triangle (a b c : Point)
  | quad (a b c d : Point)
  | rect (width height : Scalar)
  | roundedRect (width height radius : Scalar)
  | corneredRect (width height : Scalar) (radii : CornerRadii)
  | arc (radius radians : Scalar)
  | sector (radius radians : Scalar)
  | circle (radius : Scalar)
  | ellipse (radiusX radiusY : Scalar)
  deriving DecidableEq, Repr

inductive ShapeKind where
  | line | triangle | quad | rect | roundedRect | corneredRect | arc | sector | circle | ellipse
  deriving DecidableEq, Repr

namespace Shape

def kind : Shape → ShapeKind
  | .line .. => .line
  | .triangle .. => .triangle
  | .quad .. => .quad
  | .rect .. => .rect
  | .roundedRect .. => .roundedRect
  | .corneredRect .. => .corneredRect
  | .arc .. => .arc
  | .sector .. => .sector
  | .circle .. => .circle
  | .ellipse .. => .ellipse

/-- A line has no interior. -/
def hasInterior (shape : Shape) : Bool := shape.kind != .line

/-- The scalars of a shape in the order in which they are written. -/
def scalars : Shape → List Scalar
  | .line p q => [p.x, p.y, q.x, q.y]
  | .triangle a b c => [a.x, a.y, b.x, b.y, c.x, c.y]
  | .quad a b c d => [a.x, a.y, b.x, b.y, c.x, c.y, d.x, d.y]
  | .rect w h => [w, h]
  | .roundedRect w h r => [w, h, r]
  | .corneredRect w h r => [w, h, r.upperLeft, r.upperRight, r.lowerRight, r.lowerLeft]
  | .arc r a => [r, a]
  | .sector r a => [r, a]
  | .circle r => [r]
  | .ellipse rx ry => [rx, ry]

end Shape

/-- The direction in which an arc is swept; the y axis points down. -/
inductive Turn where
  | clockwise
  | counterClockwise
  deriving DecidableEq, Repr

end ScenePlayer
