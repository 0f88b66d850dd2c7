import ScenePlayer.Raster.Mask
import ScenePlayer.Raster.Paintable

/-!
Painting with premultiplied pixels. Colours are brought to pixels, and pixels are
laid over each other as far as masks cover them.
-/

namespace ScenePlayer

namespace Pixel

/-- One half. -/
def half : Scalar := ⟨0x3f000000⟩

/-- A fraction of one as a byte, rounded to the nearest. -/
def byte (fraction : Scalar) : UInt8 := UInt8.ofNat (fraction * 255 + half).whole

/-- The pixel of a colour. -/
def ofColour (c : Colour) : Pixel :=
  let alpha := Colour.fraction c.alpha
  ⟨byte (Colour.fraction c.red * alpha), byte (Colour.fraction c.green * alpha),
    byte (Colour.fraction c.blue * alpha), byte alpha⟩

/-- A part of a pixel, as 255ths of it. -/
def dim (keep : UInt8) (p : Pixel) : Pixel :=
  ⟨scale p.red keep, scale p.green keep, scale p.blue keep, scale p.alpha keep⟩

/-- A pixel laid over another. -/
def laidOver (above below : Pixel) : Pixel :=
  let seen := below.dim (255 - above.alpha)
  ⟨above.red + seen.red, above.green + seen.green, above.blue + seen.blue,
    above.alpha + seen.alpha⟩

end Pixel

namespace Paintwork

/-- Leave a picture as it is. -/
def none : Paintwork := fun picture => ⟨picture.pixels, rfl⟩

/-- Lay ink over a picture, as far as a mask covers it and a clip leaves it. -/
def lay (cover : Mask) (clip : Option Mask) (ink : Nat → Nat → Pixel) : Paintwork :=
  fun picture =>
    ⟨picture.pixels.mapIdx fun i below =>
      let covered := cover.cells.getD i 0
      let keep := match clip with
        | .none => covered
        | some mask => Mask.part covered (mask.cells.getD i 0)
      if keep = 0 then below
      else ((ink (i % picture.width) (i / picture.width)).dim keep).laidOver below,
      Array.size_mapIdx⟩

end Paintwork

end ScenePlayer
