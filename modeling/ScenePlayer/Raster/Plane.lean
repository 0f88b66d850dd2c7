import ScenePlayer.Geometry.Drawable

/-!
The plane of a raster in double precision. Pixels are unit squares; the pixel in
column `x` and row `y` is asked for at its centre.
-/

namespace ScenePlayer

/-- A point of the plane. -/
structure Spot where
  x : Float
  y : Float
  deriving Inhabited

namespace Spot

def ofPoint (p : Point) : Spot := ⟨p.x.toFloat, p.y.toFloat⟩

/-- The centre of a pixel. -/
def centre (x y : Nat) : Spot := ⟨x.toFloat + 0.5, y.toFloat + 0.5⟩

def add (p q : Spot) : Spot := ⟨p.x + q.x, p.y + q.y⟩

def sub (p q : Spot) : Spot := ⟨p.x - q.x, p.y - q.y⟩

def scale (factor : Float) (p : Spot) : Spot := ⟨factor * p.x, factor * p.y⟩

def dot (p q : Spot) : Float := p.x * q.x + p.y * q.y

/-- The length of `q` across `p`; positive if `q` points to the right of `p` on
a screen whose y axis points down. -/
def cross (p q : Spot) : Float := p.x * q.y - p.y * q.x

def length (p : Spot) : Float := (p.dot p).sqrt

/-- Turned by a quarter towards the right. -/
def right (p : Spot) : Spot := ⟨-p.y, p.x⟩

/-- The point at fraction `t` of the way. -/
def towards (p q : Spot) (t : Float) : Spot := p.add ((q.sub p).scale t)

end Spot

/-- A closed polygon by its corners. -/
abbrev Polygon : Type := List Spot

/-- An affine map of the plane. -/
structure Affine where
  sx : Float
  ky : Float
  kx : Float
  sy : Float
  tx : Float
  ty : Float

namespace Affine

def ofTransform (t : Transform) : Affine :=
  ⟨t.sx.toFloat, t.ky.toFloat, t.kx.toFloat, t.sy.toFloat, t.tx.toFloat, t.ty.toFloat⟩

def apply (a : Affine) (p : Spot) : Spot :=
  ⟨a.sx * p.x + a.kx * p.y + a.tx, a.ky * p.x + a.sy * p.y + a.ty⟩

def determinant (a : Affine) : Float := a.sx * a.sy - a.kx * a.ky

/-- The map back, if there is one. -/
def inverse? (a : Affine) : Option Affine :=
  let d := a.determinant
  if d == 0 || !d.isFinite then none
  else
    some ⟨a.sy / d, -a.ky / d, -a.kx / d, a.sx / d, (a.kx * a.ty - a.sy * a.tx) / d,
      (a.ky * a.tx - a.sx * a.ty) / d⟩

end Affine

end ScenePlayer
