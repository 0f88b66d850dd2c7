import ScenePlayer.Asset.Picture

/-!
Pictures to paint on. Such a picture has at least one pixel, and rows of less than
2^31 bytes. A drawing call makes new pixels of those that are there, and as many;
what is painted is read back as straight colours.
-/

namespace ScenePlayer

namespace Pixel

/-- A channel divided by the alpha, rounded down from a half up, at most 255. -/
def straighten (alpha channel : UInt8) : UInt8 :=
  if alpha = 0 then 0
  else if alpha = 255 then channel
  else (channel.toNat.toFloat / (alpha.toNat.toFloat / 255) + 0.5).toUInt8

/-- The straight colour of a pixel. -/
def colour (p : Pixel) : Colour :=
  ⟨straighten p.alpha p.red, straighten p.alpha p.green, straighten p.alpha p.blue, p.alpha⟩

end Pixel

/-- A drawing call, as a function of the picture that it draws on. -/
abbrev Paintwork : Type :=
  (picture : Picture) → { pixels : Array Pixel // pixels.size = picture.pixels.size }

namespace Picture

/-- Whether a picture of a size can be painted on. -/
def isPaintable (width height : Nat) : Bool :=
  decide (0 < width) && decide (0 < height) && decide (4 * width < 1 <<< 31)

/-- A picture of one pixel all over. -/
def filled (width height : Nat) (pixel : Pixel) : Picture :=
  ⟨width, height, Array.replicate (width * height) pixel⟩

/-- What a drawing call makes of a picture. -/
def painted (work : Paintwork) (picture : Picture) : Picture :=
  { picture with pixels := (work picture).val }

end Picture

end ScenePlayer
