import ScenePlayer.Canvas.Basic
import ScenePlayer.Raster.Clip
import ScenePlayer.Raster.Paintable

/-!
Painters: what a raster leaves to others. A painter rasterises, draws on pictures
and sets texts. Each of its calls is a function of what it is given: the drawing
calls of the picture that they draw on, and the setting of texts of the fonts that
are loaded. Of what comes out, only the number of pixels is known.
-/

namespace ScenePlayer

/-- How a pattern goes on beyond the edge of its picture. -/
inductive Spread where
  /-- As it ends. -/
  | pad
  /-- From the start, in both directions. -/
  | tile
  deriving DecidableEq, Repr

/-- What a drawing call lays on a picture, with gradients of type `G`. It lies in
the plane of what is drawn and moves with it. -/
inductive Pigment (G : Type) where
  | colour (colour : Colour)
  | gradient (gradient : G)
  | pattern (picture : Picture) (spread : Spread) (opacity : Scalar) (placement : Transform)

/-- The pixels that a text covers. -/
structure Glyphs where
  mask : Mask
  /-- Where the upper left pixel lies, seen from the anchor of the text. -/
  origin : Point

/-- A painter with gradients of type `G` that keeps the fonts it has loaded in a
state of type `τ`. -/
structure Painter (G τ : Type) where
  /-- The pixel with which a colour fills a picture. -/
  pixel : Colour → Pixel
  /-- The gradient from one colour to another, if it can be made. -/
  linear : (start stop : Point) → (first second : Colour) → Option G
  /-- The gradient from one colour, up to a fraction `inner` of the radius, to
  another at the radius, if it can be made. -/
  radial : (centre : Point) → (radius inner : Scalar) → (first second : Colour) → Option G
  /-- Whether a picture can be used as a pattern. -/
  reads : Picture → Bool
  cover : Rasteriser
  /-- Fill an outline by the non-zero winding rule. -/
  fill : Outline → Pigment G → Transform → Option Mask → Paintwork
  stroke : Outline → Pigment G → StrokeStyle → Transform → Option Mask → Paintwork
  /-- Fill a box. -/
  box : Bounds → Pigment G → Transform → Option Mask → Paintwork
  /-- Lay a picture over another, its upper left corner at the origin. -/
  layer : Picture → Transform → Option Mask → Paintwork
  /-- No font loaded. -/
  fonts : τ
  /-- Set a text, if there is anything to set. -/
  typeset : TextRun → τ → Option Glyphs × τ

end ScenePlayer
