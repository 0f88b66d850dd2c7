import ScenePlayer.Geometry.Shape

/-!
Affine maps of the plane. `Transform.precede` composes an inner map with the
current one; identities on either side are returned unchanged, and maps that
only scale and shift take a shorter way, so results are exact there.
-/

namespace ScenePlayer

/-- The map `(x, y) ↦ (sx * x + kx * y + tx, ky * x + sy * y + ty)`. -/
structure Transform where
  sx : Scalar
  ky : Scalar
  kx : Scalar
  sy : Scalar
  tx : Scalar
  ty : Scalar
  deriving DecidableEq, Repr

namespace Transform

def identity : Transform := ⟨1, 0, 0, 1, 0, 0⟩

def shift (x y : Scalar) : Transform := ⟨1, 0, 0, 1, x, y⟩

def scaling (x y : Scalar) : Transform := ⟨x, 0, 0, y, 0, 0⟩

/-- Degrees in a radian. -/
def degreesPerRadian : Scalar := ⟨0x42652ee1⟩

/-- Radians in a degree. -/
def radiansPerDegree : Scalar := ⟨0x3c8efa35⟩

/-- The rotation by an angle, which is taken through degrees. -/
def rotation (radians : Scalar) : Transform :=
  let angle := radians * degreesPerRadian * radiansPerDegree
  ⟨angle.cos, angle.sin, -angle.sin, angle.cos, 0, 0⟩

/-- Every entry is the number that the identity has there. -/
def isIdentity (t : Transform) : Bool :=
  t.sx.equal 1 && t.ky.equal 0 && t.kx.equal 0 && t.sy.equal 1 && t.tx.equal 0 && t.ty.equal 0

def hasSkew (t : Transform) : Bool := !(t.kx.equal 0 && t.ky.equal 0)

/-- Apply `inner` first and `current` to the result. -/
def precede (current inner : Transform) : Transform :=
  if current.isIdentity then inner
  else if inner.isIdentity then current
  else if !current.hasSkew && !inner.hasSkew then
    ⟨current.sx * inner.sx, 0, 0, current.sy * inner.sy, current.sx * inner.tx + current.tx,
      current.sy * inner.ty + current.ty⟩
  else
    ⟨Scalar.sumOfProducts current.sx inner.sx current.kx inner.ky,
      Scalar.sumOfProducts current.ky inner.sx current.sy inner.ky,
      Scalar.sumOfProducts current.sx inner.kx current.kx inner.sy,
      Scalar.sumOfProducts current.ky inner.kx current.sy inner.sy,
      Scalar.sumOfProducts current.sx inner.tx current.kx inner.ty + current.tx,
      Scalar.sumOfProducts current.ky inner.tx current.sy inner.ty + current.ty⟩

def scalars (t : Transform) : List Scalar := [t.sx, t.ky, t.kx, t.sy, t.tx, t.ty]

def isFinite (t : Transform) : Bool := t.scalars.all Scalar.isFinite

end Transform

end ScenePlayer
