import ScenePlayer.Geometry.Outline
import ScenePlayer.Geometry.Transform

/-!
Outlines on their way to a surface: their image under a transform, and whether
that image is of a size that can be filled.
-/

namespace ScenePlayer

/-- The image of a point. -/
def Transform.apply (t : Transform) (p : Point) : Point :=
  ⟨p.x * t.sx + p.y * t.kx + t.tx, p.x * t.ky + p.y * t.sy + t.ty⟩

/-- A segment with every point replaced by its image. -/
def Segment.map (image : Point → Point) : Segment → Segment
  | .move p => .move (image p)
  | .line p => .line (image p)
  | .quad c p => .quad (image c) (image p)
  | .cubic c₁ c₂ p => .cubic (image c₁) (image c₂) (image p)
  | .close => .close

/-- The rectangle that a box is, as an outline. -/
def Bounds.outline (b : Bounds) : Outline where
  segments := [.move ⟨b.left, b.top⟩, .line ⟨b.right, b.top⟩, .line ⟨b.right, b.bottom⟩,
    .line ⟨b.left, b.bottom⟩, .close]
  bounds := b

/-- The box with a corner and a size, if its sides are in order and finite. -/
def Bounds.ofCorner (x y width height : Scalar) : Option Bounds :=
  make? x y (width + x) (height + y)

namespace Outline

/-- The image of an outline, if there still is a box around its points. -/
def map? (t : Transform) (outline : Outline) : Option Outline :=
  if t.isIdentity then some outline
  else ofSegments (outline.segments.map (Segment.map t.apply))

/-- Extents up to 2^-12 count as none. -/
def leastExtent : Scalar := ⟨0x39800000⟩

/-- A quarter of the greatest scalar; coordinates beyond it are not drawn. -/
def farthest : Scalar := ⟨0x7e7fffff⟩

/-- Whether an outline has an extent in both directions, and no coordinate is too
far out. -/
def isDrawable (outline : Outline) : Bool :=
  let b := outline.bounds
  decide (leastExtent < b.right - b.left) && decide (leastExtent < b.bottom - b.top)
    && decide (-farthest ≤ b.left) && decide (-farthest ≤ b.top)
    && decide (b.right ≤ farthest) && decide (b.bottom ≤ farthest)

end Outline

end ScenePlayer
