import ScenePlayer.Canvas.Screen
import ScenePlayer.Geometry.Drawable
import ScenePlayer.Raster.Shade

/-!
Raster surfaces: a picture to paint on, the clip masks of the frame at hand, the
fonts that a painter has loaded and the number of finished frames. `Surface.canvas`
makes scenes draw on it with a painter.
-/

namespace ScenePlayer

structure Surface (τ : Type) where
  picture : Picture
  clips : ClipMasks := {}
  /-- Missing until a text is drawn. -/
  fonts : Option τ := none
  /-- Frames finished so far. -/
  frames : Nat := 0

namespace Surface

variable {G τ : Type}

/-- The width of a surface unless told otherwise. -/
def defaultWidth : Nat := 800

/-- The height of a surface unless told otherwise. -/
def defaultHeight : Nat := 600

def width (surface : Surface τ) : Nat := surface.picture.width

def height (surface : Surface τ) : Nat := surface.picture.height

/-- A transparent surface. -/
def create (width height : Nat) : Except CanvasError (Surface τ) :=
  if Picture.isPaintable width height then
    .ok { picture := .filled width height .clear }
  else .error (.invalidSize width height)

/-- Give a surface another size, which makes it transparent. A size that it has
already changes nothing, and one that it cannot have is refused. -/
def resize (width height : Nat) (surface : Surface τ) : Except CanvasError Unit × Surface τ :=
  if surface.width = width ∧ surface.height = height then (.ok (), surface)
  else if Picture.isPaintable width height then
    (.ok (), { surface with picture := .filled width height .clear, clips := {} })
  else (.error (.invalidSize width height), surface)

/-! ### Reading -/

/-- The straight colour of a pixel. Pixels are looked up by their number, which
has to be a 32-bit word, so a column past the end of a row is one of the next. -/
def pixel (surface : Surface τ) (x y : UInt32) : Option Colour :=
  let index := y.toNat * surface.width + x.toNat
  if index < UInt32.size then surface.picture.pixels[index]?.map Pixel.colour else none

/-- The straight colours of all pixels. -/
def rgba (surface : Surface τ) : Bytes :=
  surface.picture.pixels.toList.flatMap fun p => p.colour.toList

/-- The straight colours of all pixels without alpha. -/
def rgb (surface : Surface τ) : Bytes :=
  surface.picture.pixels.toList.flatMap fun p => p.colour.toList.take 3

/-- What the surface shows. -/
def frame (surface : Surface τ) : Frame :=
  ⟨UInt32.ofNat surface.width, UInt32.ofNat surface.height, surface.rgba.toArray⟩

/-! ### Drawing -/

variable (painter : Painter G τ)

/-- Start a frame. -/
def beginFrame (clear : Colour) (surface : Surface τ) : Surface τ :=
  { surface with
    picture := .filled surface.width surface.height (painter.pixel clear)
    clips := {} }

def endFrame (surface : Surface τ) : Surface τ := { surface with frames := surface.frames + 1 }

/-- The mask of a clip, which is kept for later draws. -/
def clipMask (clip : Clip) (surface : Surface τ) : Option Mask × Surface τ :=
  let (id, clips) := surface.clips.prepareWith painter.cover surface.width surface.height clip
  (id.bind clips.find?, { surface with clips })

/-- Draw within a clip. -/
def paint (clip : Clip) (work : Option Mask → Paintwork) (surface : Surface τ) : Surface τ :=
  let (mask, surface) := surface.clipMask painter clip
  { surface with picture := surface.picture.painted (work mask) }

def fill (outline : Outline) (ink : Ink (Shade G)) (place : Placement) (surface : Surface τ) :
    Surface τ :=
  surface.paint painter place.clip
    (painter.fill outline (painter.pigment ink) place.transform)

/-- A stroke of a width that is not finite and positive draws nothing. -/
def stroke (outline : Outline) (ink : Ink (Shade G)) (style : StrokeStyle) (place : Placement)
    (surface : Surface τ) : Surface τ :=
  if !style.width.isFinite || decide (style.width ≤ 0) then surface
  else
    surface.paint painter place.clip
      (painter.stroke outline (painter.pigment ink) style place.transform)

/-- Draw the glyphs of a text. They are inked on a layer of their own, in the plane
of the text's anchor, and the layer is drawn as a whole. -/
def paintGlyphs (glyphs : Glyphs) (ink : Ink (Shade G)) (place : Placement)
    (surface : Surface τ) : Surface τ :=
  let origin := glyphs.origin
  let width := glyphs.mask.width
  let height := glyphs.mask.height
  match Picture.isPaintable width height,
    Bounds.ofCorner origin.x origin.y (Scalar.ofNat width) (Scalar.ofNat height) with
  | true, some area =>
      let inked := (Picture.filled width height .clear).painted
        (painter.box area (painter.pigment ink) (.shift (-origin.x) (-origin.y))
          (some glyphs.mask))
      surface.paint painter place.clip
        (painter.layer inked (place.transform.precede (.shift origin.x origin.y)))
  | _, _ => surface

/-- Fonts that the text asks for stay loaded. -/
def text (run : TextRun) (ink : Ink (Shade G)) (place : Placement) (surface : Surface τ) :
    Surface τ :=
  match painter.typeset run (surface.fonts.getD painter.fonts) with
  | (none, fonts) => { surface with fonts := some fonts }
  | (some glyphs, fonts) =>
      { surface with fonts := some fonts }.paintGlyphs painter glyphs ink place

/-- The map from the pixels of an image to the plane in which a sprite lies. -/
def spritePlacement (sprite : Sprite) : Transform :=
  let source := sprite.source
  let target := sprite.target
  ((Transform.shift target.x target.y).precede
    (.scaling (target.width / source.width) (target.height / source.height))).precede
    (.shift (-source.x) (-source.y))

/-- A part of an image; beyond its edge the image goes on as it ends. Sprites that
are nowhere, empty or transparent draw nothing. -/
def sprite (image : Picture) (sprite : Sprite) (place : Placement) (surface : Surface τ) :
    Surface τ :=
  let target := sprite.target
  let placement := spritePlacement sprite
  if decide (sprite.source.width ≤ 0) || decide (sprite.source.height ≤ 0) || sprite.alpha.isNaN
      || decide (sprite.alpha ≤ 0) || !painter.reads image || !placement.isFinite then surface
  else
    match Bounds.ofCorner target.x target.y target.width target.height with
    | none => surface
    | some area =>
        surface.paint painter place.clip
          (painter.box area (.pattern image .pad (sprite.alpha.least 1) placement)
            place.transform)

/-- The canvas on which a painter paints. -/
def canvas : Canvas (Surface τ) (Shade G) where
  buildShader source surface := (painter.shade source, surface)
  beginFrame clear surface := (.ok (), surface.beginFrame painter clear)
  fill := fill painter
  stroke := stroke painter
  text := text painter
  sprite := sprite painter
  endFrame surface := (.ok (), surface.endFrame)

/-- Raster surfaces as a screen. -/
def screen : Screen (Surface τ) (Shade G) where
  canvas := canvas painter
  create
  resize
  frame

end Surface

end ScenePlayer
