import ScenePlayer.Asset.Picture
import ScenePlayer.Raster.Mask

/-!
Parts of a byte in 255ths, rounded to the nearest. By them pictures multiply channels by their
alpha (`Pixel.scale`), and clip masks keep a part of a pixel (`Mask.part`). A part is neither
more than the whole nor more than the fraction itself; none and all of a byte are exact.
-/

namespace ScenePlayer

namespace Pixel

theorem mul_toNat_le (channel alpha : UInt8) : channel.toNat * alpha.toNat ≤ 255 * 255 :=
  Nat.mul_le_mul (Nat.le_of_lt_succ channel.toNat_lt) (Nat.le_of_lt_succ alpha.toNat_lt)

theorem toNat_scale (channel alpha : UInt8) :
    (scale channel alpha).toNat = (channel.toNat * alpha.toNat + 127) / 255 := by
  have most := mul_toNat_le channel alpha
  rw [scale, UInt8.toNat_ofNat', Nat.mod_eq_of_lt]
  omega

theorem scale_comm (channel alpha : UInt8) : scale channel alpha = scale alpha channel := by
  rw [scale, scale, Nat.mul_comm]

theorem scale_le (channel alpha : UInt8) : scale channel alpha ≤ channel := by
  have most : channel.toNat * alpha.toNat ≤ channel.toNat * 255 :=
    Nat.mul_le_mul_left _ (Nat.le_of_lt_succ alpha.toNat_lt)
  rw [UInt8.le_iff_toNat_le, toNat_scale]
  omega

theorem scale_le_alpha (channel alpha : UInt8) : scale channel alpha ≤ alpha := by
  rw [scale_comm]
  exact scale_le alpha channel

theorem scale_opaque (channel : UInt8) : scale channel 255 = channel := by
  have all : (255 : UInt8).toNat = 255 := rfl
  rw [← UInt8.toNat_inj, toNat_scale, all]
  omega

theorem scale_zero (channel : UInt8) : scale channel 0 = 0 := by
  have none : (0 : UInt8).toNat = 0 := rfl
  rw [← UInt8.toNat_inj, toNat_scale, none, Nat.mul_zero]

end Pixel

theorem Mask.part_eq_scale (cover keep : UInt8) : part cover keep = Pixel.scale cover keep := rfl

end ScenePlayer
