import ScenePlayer.Raster.Blend
import ScenePlayer.Raster.Coverage
import ScenePlayer.Raster.Painter
import ScenePlayer.Raster.Stroke
import ScenePlayer.Text.Block
import ScenePlayer.Text.Shelf

/-!
A painter without anti-aliasing: a pixel is covered wholly or not at all, and a
pattern shows the pixel of its picture that is nearest. Glyphs are the boxes around
them.
-/

namespace ScenePlayer

/-- The pixels inside the image of an outline. -/
def Mask.ofOutline (width height : Nat) (outline : Outline) (transform : Transform) : Mask :=
  match outline.map? transform with
  | none => .empty width height
  | some image =>
      if image.isDrawable then .ofPolygons width height image.polygons
      else .empty width height

/-! ### Pigments -/

/-- A gradient. -/
inductive Ramp where
  /-- A gradient that is one colour all over. -/
  | plain (colour : Colour)
  /-- From the first colour at the start to the second at the stop. -/
  | linear (start stop : Spot) (first second : Colour)
  /-- From the first colour, up to a fraction `inner` of the radius, to the
  second at the radius. -/
  | radial (centre : Spot) (radius inner : Float) (first second : Colour)

namespace Ramp

/-- A linear gradient up to this long is its second colour all over. -/
def leastLength : Scalar := ⟨0x38000000⟩

/-- A radial gradient has to be larger than this. -/
def leastRadius : Scalar := ⟨0x39800000⟩

def linear? (start stop : Point) (first second : Colour) : Option Ramp :=
  let length := (stop.x - start.x).hypot (stop.y - start.y)
  if !length.isFinite then none
  else if length ≤ leastLength then some (.plain second)
  else some (.linear (.ofPoint start) (.ofPoint stop) first second)

def radial? (centre : Point) (radius inner : Scalar) (first second : Colour) : Option Ramp :=
  if radius ≤ leastRadius then none
  else some (.radial (.ofPoint centre) radius.toFloat inner.toFloat first second)

/-- A way from one colour to another, at a fraction of it. -/
def mix (first second : Colour) (t : Float) : Pixel :=
  if t ≤ 0 then .ofColour first
  else if 1 ≤ t then .ofColour second
  else
    let level := fun (a b : UInt8) =>
      let start := a.toNat.toFloat
      start + (b.toNat.toFloat - start) * t
    let alpha := level first.alpha second.alpha
    let channel := fun (a b : UInt8) => (level a b * alpha / 255 + 0.5).toUInt8
    ⟨channel first.red second.red, channel first.green second.green,
      channel first.blue second.blue, (alpha + 0.5).toUInt8⟩

/-- The pixel at a point. -/
def sample (ramp : Ramp) (p : Spot) : Pixel :=
  match ramp with
  | .plain colour => .ofColour colour
  | .linear start stop first second =>
      let way := stop.sub start
      mix first second ((p.sub start).dot way / way.dot way)
  | .radial centre radius inner first second =>
      let t := (p.sub centre).length / radius
      mix first second (if 1 ≤ t then 1 else (t - inner) / (1 - inner))

end Ramp

/-- The column or row of a picture that a coordinate shows. -/
def Spread.place (spread : Spread) (size : Nat) (x : Float) : Nat :=
  match spread with
  | .pad => min (size - 1) x.floor.toUInt64.toNat
  | .tile =>
      let period := size.toFloat
      min (size - 1) (x - period * (x / period).floor).floor.toUInt64.toNat

/-- The pixel at a point. A pattern without a way back to its picture is clear. -/
def Pigment.sample (pigment : Pigment Ramp) (p : Spot) : Pixel :=
  match pigment with
  | .colour c => .ofColour c
  | .gradient ramp => ramp.sample p
  | .pattern picture spread opacity placement =>
      match (Affine.ofTransform placement).inverse? with
      | none => .clear
      | some back =>
          let spot := back.apply p
          (picture.pixel (spread.place picture.width spot.x)
            (spread.place picture.height spot.y)).dim (Pixel.byte opacity)

/-! ### Drawing -/

namespace Painter.Crisp

/-- Paint the pixels of a mask. The shade lies in the plane from which `transform`
maps to the picture; nothing is painted if there is no way back to it. -/
def paint (cover : (width height : Nat) → Mask) (shade : Spot → Pixel) (transform : Transform)
    (clip : Option Mask) : Paintwork :=
  match (Affine.ofTransform transform).inverse? with
  | none => .none
  | some back => fun picture =>
      Paintwork.lay (cover picture.width picture.height) clip
        (fun x y => shade (back.apply (.centre x y))) picture

/-- Paint the inside of an outline. -/
def fill (outline : Outline) (pigment : Pigment Ramp) (transform : Transform) :
    Option Mask → Paintwork :=
  paint (fun width height => .ofOutline width height outline transform) pigment.sample transform

/-- Whether a coordinate is not too far out to be drawn. -/
def isNear (x : Float) : Bool := x.abs ≤ Outline.farthest.toFloat

def stroke (outline : Outline) (pigment : Pigment Ramp) (style : StrokeStyle)
    (transform : Transform) (clip : Option Mask) : Paintwork :=
  if !transform.isFinite then .none
  else
    let image := (Affine.ofTransform transform).apply
    let polygons := (outline.strokePolygons style).map (List.map image)
    if polygons.all (List.all · fun p => isNear p.x && isNear p.y) then
      paint (fun width height => .ofPolygons width height polygons) pigment.sample transform clip
    else .none

/-- Each pixel of the picture above is a square of its size. -/
def layer (above : Picture) (transform : Transform) (clip : Option Mask) : Paintwork :=
  match Bounds.ofCorner 0 0 (Scalar.ofNat above.width) (Scalar.ofNat above.height) with
  | none => .none
  | some bounds =>
      let shade := fun (p : Spot) =>
        let x := p.x.floor.toUInt64.toNat
        let y := p.y.floor.toUInt64.toNat
        if x < above.width ∧ y < above.height then above.pixel x y else .clear
      paint (fun width height => .ofOutline width height bounds.outline transform) shade transform
        clip

/-- No text, and text of a size that is not finite and positive, has no glyphs. -/
def typeset (run : TextRun) (shelf : FontShelf) : Option Glyphs × FontShelf :=
  let style := run.style
  if run.text.isEmpty || !style.size.isFinite || decide (style.size ≤ 0) then (none, shelf)
  else
    let (faces, shelf) := shelf.select style.font run.font
    let layer := TextLayer.ofText faces style run.text
    if Picture.isPaintable layer.width layer.height then
      let mask := Mask.tabulate layer.width layer.height fun x y =>
        if layer.hasInk x y then 255 else 0
      (some ⟨mask, layer.origin⟩, shelf)
    else (none, shelf)

end Painter.Crisp

def Painter.crisp : Painter Ramp FontShelf where
  pixel := .ofColour
  linear := Ramp.linear?
  radial := Ramp.radial?
  reads picture :=
    Picture.isPaintable picture.width picture.height &&
      picture.pixels.size == picture.width * picture.height
  cover := .ofOutline
  fill := Crisp.fill
  stroke := Crisp.stroke
  box bounds := Crisp.fill bounds.outline
  layer := Crisp.layer
  fonts := {}
  typeset := Crisp.typeset

end ScenePlayer
