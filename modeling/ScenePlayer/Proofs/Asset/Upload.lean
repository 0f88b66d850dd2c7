import ScenePlayer.Asset.Picture
import ScenePlayer.Proofs.Bytes.Parts
import ScenePlayer.Proofs.Bytes.Words

/-!
Raw uploads of textures. Sizes are checked first, in a fixed order. A buffer that passes is a run
of groups, one for each pixel (`Bytes.group`), and each group is read on its own: gray stands for
all three channels, and a format without alpha is opaque (`TextureFormat.straight?`). What is stored
of a pixel is its own group, premultiplied (`Picture.uploads_expand`).

Groups and pixels go in step, by induction on the number of groups. Whatever is uploaded, a picture
that comes of it has a pixel for each place (`Picture.isFull_ofTexture`).
-/

namespace ScenePlayer

/-! ### Premultiplied pixels -/

namespace Pixel

theorem length_toList (pixel : Pixel) : pixel.toList.length = 4 := rfl

/-- A channel times an alpha: rounded to the nearest, never above the alpha, and the channel itself
if the alpha is 255. -/
structure Scaled (channel alpha result : UInt8) : Prop where
  value : result.toNat = (channel.toNat * alpha.toNat + 127) / 255
  most : result ≤ alpha
  full : alpha = 255 → result = channel

/-- A pixel shows a straight colour: the alpha is kept, and each channel multiplied by it. -/
structure Shows (pixel : Pixel) (colour : Colour) : Prop where
  alpha : pixel.alpha = colour.alpha
  red : Scaled colour.red colour.alpha pixel.red
  green : Scaled colour.green colour.alpha pixel.green
  blue : Scaled colour.blue colour.alpha pixel.blue

theorem scaled_scale (channel alpha : UInt8) : Scaled channel alpha (scale channel alpha) := by
  refine ⟨toNat_scale channel alpha, scale_le_alpha channel alpha, ?_⟩
  rintro rfl
  exact scale_opaque channel

theorem shows_premultiplied (colour : Colour) : colour.premultiplied.Shows colour :=
  ⟨rfl, scaled_scale _ _, scaled_scale _ _, scaled_scale _ _⟩

end Pixel

/-! ### Pixels of an upload -/

namespace TextureFormat

/-- The colour that the bytes of one pixel stand for, if they are as many as the format asks for. -/
def straight? : TextureFormat → Bytes → Option Colour
  | .rgba, [red, green, blue, alpha] => some ⟨red, green, blue, alpha⟩
  | .rgb, [red, green, blue] => some ⟨red, green, blue, 255⟩
  | .gray, [level] => some ⟨level, level, level, 255⟩
  | .grayAlpha, [level, alpha] => some ⟨level, level, level, alpha⟩
  | _, _ => none

variable {format : TextureFormat} {channels : Nat} (raw : format.channels = some channels)

section Raw

include raw

theorem exists_straight {own : Bytes} (length : own.length = channels) :
    ∃ colour, format.straight? own = some colour := by
  cases format with
  | rgba =>
      cases raw
      match own, length with
      | [red, green, blue, alpha], _ => exact ⟨_, rfl⟩
  | rgb =>
      cases raw
      match own, length with
      | [red, green, blue], _ => exact ⟨_, rfl⟩
  | gray =>
      cases raw
      match own, length with
      | [level], _ => exact ⟨_, rfl⟩
  | grayAlpha =>
      cases raw
      match own, length with
      | [level, alpha], _ => exact ⟨_, rfl⟩
  | file => cases raw

end Raw

theorem pixels_append {own : Bytes} {colour : Colour} (reads : format.straight? own = some colour)
    (rest : Bytes) :
    format.pixels (own ++ rest) = colour.premultiplied :: format.pixels rest := by
  unfold straight? at reads
  split at reads <;> cases reads <;> rfl

theorem pixels_nil (format : TextureFormat) : format.pixels [] = [] := by
  cases format <;> rfl

include raw

/-- There are as many pixels as groups, and each pixel is that of its own group. -/
theorem pixels_of_groups {count : Nat} {bytes : Bytes} (length : bytes.length = channels * count) :
    (format.pixels bytes).length = count ∧ ∀ i < count, ∃ colour,
      format.straight? (bytes.group channels i) = some colour ∧
        (format.pixels bytes)[i]? = some colour.premultiplied := by
  induction count generalizing bytes with
  | zero =>
      rw [Nat.mul_zero, List.length_eq_zero_iff] at length
      rw [length, pixels_nil]
      exact ⟨rfl, fun i inside => absurd inside (Nat.not_lt_zero i)⟩
  | succ count ih =>
      obtain ⟨own, rest, rfl, rfl, further⟩ := Bytes.exists_group length
      obtain ⟨colour, reads⟩ : ∃ colour, format.straight? own = some colour :=
        exists_straight raw rfl
      obtain ⟨many, each⟩ := ih further
      rw [pixels_append reads]
      refine ⟨congrArg Nat.succ many, fun i inside => ?_⟩
      cases i with
      | zero => exact ⟨colour, by rw [Bytes.group_zero, reads], rfl⟩
      | succ i =>
          rw [Bytes.group_succ, List.getElem?_cons_succ]
          exact each i (Nat.lt_of_succ_lt_succ inside)

end TextureFormat

/-! ### Pictures -/

namespace Picture

/-- A picture has the given sides and four bytes for each pixel. Those of a pixel show the colour
that its own bytes in the upload stand for. -/
structure Expands (picture : Picture) (format : TextureFormat) (channels width height : Nat)
    (upload : Bytes) : Prop where
  columns : picture.width = width
  rows : picture.height = height
  length : picture.bytes.length = 4 * width * height
  shows : ∀ i < width * height, ∃ (colour : Colour) (pixel : Pixel),
    format.straight? (upload.group channels i) = some colour ∧
      picture.bytes.group 4 i = pixel.toList ∧ pixel.Shows colour

section Raw

variable {format : TextureFormat} {channels : Nat} (raw : format.channels = some channels)
  {width height : Nat} {upload : Bytes}

include raw

theorem expands_upload (length : upload.length = width * height * channels) :
    Expands ⟨width, height, (format.pixels upload).toArray⟩ format channels width height
      upload := by
  rw [Nat.mul_comm] at length
  obtain ⟨many, each⟩ := TextureFormat.pixels_of_groups raw length
  refine ⟨rfl, rfl, ?_, fun i inside => ?_⟩
  · exact (Bytes.length_flatMap_of_length Pixel.length_toList _).trans
      (by rw [many, Nat.mul_assoc])
  · obtain ⟨colour, reads, found⟩ := each i inside
    exact ⟨colour, colour.premultiplied, reads, Bytes.group_flatMap Pixel.length_toList found,
      Pixel.shows_premultiplied colour⟩

/-- The sides are looked at first, then the number of bytes asked for, and then that of the bytes
given. -/
theorem ofTexture_of_raw (decoder : ImageDecoder) :
    Picture.ofTexture decoder format width height upload =
      if width = 0 ∨ height = 0 then .error .zeroSize
      else if UInt64.size ≤ width * height * channels then .error (.tooLarge width height)
      else if upload.length ≠ width * height * channels then
        .error (.sizeMismatch width height (width * height * channels) upload.length)
      else .ok ⟨width, height, (format.pixels upload).toArray⟩ := by
  rw [ofTexture, raw]
  rfl

end Raw

/-! ### Uploads of any format -/

/-- A picture has pixels, and one for each place. -/
structure IsFull (picture : Picture) : Prop where
  columns : 0 < picture.width
  rows : 0 < picture.height
  full : picture.pixels.size = picture.width * picture.height

variable {decoder : ImageDecoder} {picture : Picture}

/-- However image files are decoded, those without pixels are refused. -/
theorem isFull_ofFile {file : Bytes} (read : ofFile decoder file = .ok picture) :
    picture.IsFull := by
  unfold ofFile at read
  cases decoded : decoder file with
  | error causes =>
      rw [decoded] at read
      cases read
  | ok image =>
      rw [decoded] at read
      dsimp only [ofStraight] at read
      split at read
      · cases read
      · rename_i sides
        rw [not_or] at sides
        cases read
        exact ⟨Nat.pos_of_ne_zero sides.1, Nat.pos_of_ne_zero sides.2,
          (Array.size_map ..).trans image.full⟩

/-- Whatever is uploaded, a picture that comes of it is full. -/
theorem isFull_ofTexture {format : TextureFormat} {width height : Nat} {upload : Bytes}
    (made : ofTexture decoder format width height upload = .ok picture) : picture.IsFull := by
  cases channels : format.channels with
  | none =>
      rw [ofTexture, channels] at made
      exact isFull_ofFile made
  | some number =>
      rw [ofTexture_of_raw channels] at made
      split at made
      · cases made
      · rename_i sides
        rw [not_or] at sides
        split at made
        · cases made
        · split at made
          · cases made
          · rename_i length
            rw [not_not, Nat.mul_comm] at length
            cases made
            exact ⟨Nat.pos_of_ne_zero sides.1, Nat.pos_of_ne_zero sides.2,
              (TextureFormat.pixels_of_groups channels length).1⟩

/-- **What comes of a raw upload.** Let a format have some number of bytes a pixel. Whatever the
sides and the buffer: a side of zero is refused as such; else 2^64 bytes or more asked for are
refused as too large; else a buffer of another length is refused, together with the length that is
asked for, as it is without any bound. So an upload succeeds if and only if both sides are positive
and the buffer has the length that is asked for, since no buffer has 2^64 bytes.

The picture has the sides given and four bytes for each pixel. They show the colour that the
pixel's own bytes in the buffer stand for: gray stands for all three channels, and alpha is 255
where the format has none. The alpha is kept, and each channel is multiplied by it and rounded, so
that it is never above the alpha, and is unchanged if the alpha is 255. -/
theorem uploads_expand (decoder : ImageDecoder) (format : TextureFormat) (channels : Nat)
    (raw : format.channels = some channels) (width height : Nat) (upload : Bytes) :
    let asked := width * height * channels
    let answer := Picture.ofTexture decoder format width height upload
    (answer = .error .zeroSize ↔ width = 0 ∨ height = 0) ∧
      (answer = .error (.tooLarge width height) ↔ 0 < width ∧ 0 < height ∧ UInt64.size ≤ asked) ∧
      (answer = .error (.sizeMismatch width height asked upload.length) ↔
        0 < width ∧ 0 < height ∧ asked < UInt64.size ∧ upload.length ≠ asked) ∧
      (upload.length < UInt64.size →
        ((∃ picture, answer = .ok picture) ↔ 0 < width ∧ 0 < height ∧ upload.length = asked)) ∧
      ∀ picture, answer = .ok picture → picture.Expands format channels width height upload := by
  intro asked answer
  have outcome : answer = _ := ofTexture_of_raw raw decoder
  clear_value answer
  by_cases zero : width = 0 ∨ height = 0
  · rw [if_pos zero] at outcome
    simp only [outcome, Except.error.injEq, reduceCtorEq, exists_false, false_implies,
      implies_true, and_true, true_iff, false_iff]
    omega
  · rw [if_neg zero] at outcome
    by_cases large : UInt64.size ≤ asked
    · rw [if_pos large] at outcome
      simp only [outcome, Except.error.injEq, reduceCtorEq, exists_false, false_implies,
        implies_true, and_true, true_iff, false_iff]
      omega
    · rw [if_neg large] at outcome
      by_cases length : upload.length = asked
      · rw [if_neg (not_not_intro length)] at outcome
        simp only [outcome, reduceCtorEq, Except.ok.injEq, exists_eq', forall_eq',
          expands_upload raw length, and_true, true_iff, false_iff]
        omega
      · rw [if_pos length] at outcome
        have same : width * height * channels = asked := rfl
        simp only [outcome, same, Except.error.injEq, reduceCtorEq, exists_false, false_implies,
          implies_true, and_true, true_iff, false_iff]
        omega

/-- Two gray pixels, of which the first is half transparent. -/
theorem uploads_expand_of_gray :
    let upload : Bytes := [200, 128, 7, 255]
    let decoder : ImageDecoder := fun _ => .error []
    let answer (width height : Nat) := Picture.ofTexture decoder .grayAlpha width height upload
    TextureFormat.grayAlpha.channels = some 2 ∧
      (∃ picture : Picture, answer 2 1 = .ok picture ∧
        picture.Expands .grayAlpha 2 2 1 upload) ∧
      answer 0 1 = .error .zeroSize ∧ answer 3 1 = .error (.sizeMismatch 3 1 6 4) ∧
      answer 4294967295 4294967295 = .error (.tooLarge 4294967295 4294967295) ∧
      answer 2 1 = .ok ⟨2, 1, #[⟨100, 100, 100, 128⟩, ⟨7, 7, 7, 255⟩]⟩ := by
  intro upload decoder answer
  have raw : TextureFormat.grayAlpha.channels = some 2 := rfl
  obtain ⟨-, -, -, succeeds, expands⟩ := uploads_expand decoder .grayAlpha 2 raw 2 1 upload
  obtain ⟨zero, -⟩ := uploads_expand decoder .grayAlpha 2 raw 0 1 upload
  obtain ⟨-, -, mismatch, -⟩ := uploads_expand decoder .grayAlpha 2 raw 3 1 upload
  obtain ⟨-, large, -⟩ := uploads_expand decoder .grayAlpha 2 raw 4294967295 4294967295 upload
  obtain ⟨picture, answered⟩ := (succeeds (by decide)).2 (by decide)
  exact ⟨raw, ⟨picture, answered, expands picture answered⟩, zero.2 (by decide),
    mismatch.2 (by decide), large.2 (by decide), rfl⟩

end Picture

end ScenePlayer
