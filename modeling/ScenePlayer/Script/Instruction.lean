import ScenePlayer.Colour
import ScenePlayer.Geometry.Transform

/-!
The instructions of a scene script: plain values that refer to other scripts
and to assets by identifier only, so a script can be replayed any number of
times.
-/

namespace ScenePlayer

/-- A gradient between two colours. Gradients with the same bit patterns are
equal, those with scalars that are no number included. -/
inductive Gradient where
  | linear (start stop : Point) (startColour stopColour : Colour)
  | radial (centre : Point) (innerRadius outerRadius : Scalar) (innerColour outerColour : Colour)
  deriving DecidableEq, Repr

/-- Where the colour of a fill or a stroke comes from. -/
inductive Paint where
  | colour (colour : Colour)
  | gradient (gradient : Gradient)
  | image (id : String)
  | stream (id : String)
  deriving DecidableEq, Repr

/-- Which of the two paints of a draw state. -/
inductive PaintSlot where
  | fill
  | stroke
  deriving DecidableEq, Repr

inductive LineCap where
  | butt | round | square
  deriving DecidableEq, Repr

inductive LineJoin where
  | bevel | round | miter
  deriving DecidableEq, Repr

inductive TextAlign where
  | left | center | right
  deriving DecidableEq, Repr

inductive TextBaseline where
  | top | middle | alphabetic | bottom
  deriving DecidableEq, Repr

/-- How a clip region combines with the clip in effect. -/
inductive ClipMode where
  | intersect
  | difference
  deriving DecidableEq, Repr

/-- What a shape draw paints: bit 0 asks for the interior, bit 1 for the outline. -/
structure DrawFlags where
  bits : UInt16
  deriving DecidableEq, Repr

def DrawFlags.fills (flags : DrawFlags) : Bool := flags.bits.toNat.testBit 0

def DrawFlags.strokes (flags : DrawFlags) : Bool := flags.bits.toNat.testBit 1

/-- A rectangle by its corner and its size. -/
structure Area where
  x : Scalar
  y : Scalar
  width : Scalar
  height : Scalar
  deriving DecidableEq, Repr

/-- One copy of a part of an image, scaled to a target area. -/
structure Sprite where
  source : Area
  target : Area
  alpha : Scalar
  deriving DecidableEq, Repr

inductive Instruction where
  | pushState
  | popState
  | popPushState
  | translate (x y : Scalar)
  | scale (x y : Scalar)
  | rotate (radians : Scalar)
  | transform (matrix : Transform)
  | paint (slot : PaintSlot) (source : Paint)
  | strokeWidth (width : Scalar)
  | lineCap (cap : LineCap)
  | lineJoin (join : LineJoin)
  | miterLimit (limit : Scalar)
  | font (id : String)
  | fontSize (size : Scalar)
  | textAlign (align : TextAlign)
  | textBaseline (baseline : TextBaseline)
  | draw (shape : Shape) (flags : DrawFlags)
  | drawText (text : String)
  | drawSprites (image : String) (sprites : List Sprite)
  | drawScript (target : String)
  | beginPath
  | closePath
  | fillPath
  | strokePath
  | moveTo (point : Point)
  | lineTo (point : Point)
  | arcTo (tangent stop : Point) (radius : Scalar)
  | bezierTo (control₁ control₂ stop : Point)
  | quadraticTo (control stop : Point)
  | addShape (shape : Shape)
  | pathArc (centre : Point) (radius start stop : Scalar) (turn : Turn)
  | scissor (width height : Scalar)
  | clipPath (mode : ClipMode)
  deriving DecidableEq, Repr

end ScenePlayer
