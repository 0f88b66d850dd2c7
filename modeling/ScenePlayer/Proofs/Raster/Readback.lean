import ScenePlayer.Proofs.Player.Service
import ScenePlayer.Proofs.Raster.FramePixels

/-!
Reading surfaces back: one pixel, all of them with or without alpha, or as a frame. All readers
list the straight colours of the pixels in the order of their numbers, and a frame is read at a
place if and only if it has the place. A surface looks pixels up by number alone, and in 32-bit
words: a column past the end of a row is one of a later row (`Surface.pixel_eq_some_iff`), and
numbers from 2^32 on have no pixel. Where the two agree is settled by `readers_agree`.

The readers are compared on surfaces of a size they can have, with a pixel for each place
(`Surface.IsValid`). A surface is made that way and stays so in every operation.
-/

namespace ScenePlayer

/-! ### Every fourth byte -/

namespace Bytes

/-- The bytes without every fourth. -/
def withoutFourths (bytes : Bytes) : Bytes :=
  (bytes.zipIdx.filter fun entry => entry.2 % 4 ≠ 3).map Prod.fst

theorem withoutFourths_append {own : Bytes} (aligned : 4 ∣ own.length) (rest : Bytes) :
    (own ++ rest).withoutFourths = own.withoutFourths ++ rest.withoutFourths := by
  have moved : ∀ index, decide ((own.length + index) % 4 ≠ 3) = decide (index % 4 ≠ 3) := by
    intro index
    have same : (own.length + index) % 4 = index % 4 := by omega
    rw [same]
  unfold withoutFourths
  rw [List.zipIdx_append, List.filter_append, List.map_append, Nat.zero_add,
    @List.zipIdx_eq_map_add _ rest own.length, List.filter_map, List.map_map]
  congr 2
  exact List.filter_congr fun entry _ => moved entry.2

theorem withoutFourths_flatMap {α : Type} {write : α → Bytes}
    (each : ∀ element, (write element).length = 4) (elements : List α) :
    withoutFourths (elements.flatMap write) =
      elements.flatMap fun element => (write element).take 3 := by
  induction elements with
  | nil => rfl
  | cons first rest ih =>
      have alone : withoutFourths (write first) = (write first).take 3 := by
        match write first, each first with
        | [_, _, _, _], _ => rfl
      rw [List.flatMap_cons, withoutFourths_append ⟨1, each first⟩, ih, alone, List.flatMap_cons]

end Bytes

/-- Dropping the alpha of pixels is leaving out every fourth byte. -/
theorem Frame.dropAlpha_eq : ∀ {bytes : Bytes}, 4 ∣ bytes.length →
    dropAlpha bytes = bytes.withoutFourths
  | [], _ => rfl
  | [_], aligned => by simp at aligned
  | [_, _], aligned => by simp at aligned
  | [_, _, _], aligned => by simp at aligned
  | r :: g :: b :: a :: rest, aligned => by
      have shorter : 4 ∣ rest.length := by
        simp only [List.length_cons] at aligned
        omega
      have split := @Bytes.withoutFourths_append [r, g, b, a] (Nat.dvd_refl 4) rest
      exact (congrArg (r :: g :: b :: ·) (dropAlpha_eq shorter)).trans split.symm

theorem Colour.length_toList (colour : Colour) : colour.toList.length = 4 := rfl

namespace Surface

variable {G τ : Type} {surface : Surface τ} {x y : UInt32} {width height : Nat}

/-! ### Valid surfaces -/

/-- A surface has a size that it can be given, in 32-bit words, and a pixel for each place. -/
structure IsValid (surface : Surface τ) : Prop where
  paintable : Picture.isPaintable surface.width surface.height = true
  rows : surface.height < UInt32.size
  full : surface.picture.pixels.size = surface.width * surface.height

/-- A picture of one pixel all over makes a valid surface. -/
theorem isValid_filled (paintable : Picture.isPaintable width height = true)
    (rows : height < UInt32.size) (pixel : Pixel) (clips : ClipMasks) (fonts : Option τ)
    (frames : Nat) : IsValid ⟨.filled width height pixel, clips, fonts, frames⟩ :=
  ⟨paintable, rows, Array.size_replicate ..⟩

theorem isValid_create (rows : height < UInt32.size)
    (created : create width height = .ok surface) : surface.IsValid := by
  unfold create at created
  split at created
  · rename_i paintable
    cases created
    exact isValid_filled paintable rows _ _ _ _
  · cases created

namespace IsValid

variable (valid : surface.IsValid)

include valid

theorem resize (rows : height < UInt32.size) : (surface.resize width height).2.IsValid := by
  unfold Surface.resize
  split
  · exact valid
  · split
    · rename_i paintable
      exact isValid_filled paintable rows _ _ _ _
    · exact valid

theorem beginFrame (painter : Painter G τ) (clear : Colour) :
    (surface.beginFrame painter clear).IsValid :=
  isValid_filled valid.paintable valid.rows _ _ _ _

/-- Surfaces of one shape are valid alike. -/
theorem of_shape {other : Surface τ} (same : other.shape = surface.shape) : other.IsValid := by
  obtain ⟨width, height, pixels⟩ :
      other.width = surface.width ∧ other.height = surface.height ∧
        other.picture.pixels.size = surface.picture.pixels.size := by
    simpa [shape] using same
  refine ⟨?_, height ▸ valid.rows, ?_⟩
  · rw [width, height]
    exact valid.paintable
  · rw [width, height, pixels]
    exact valid.full

end IsValid

/-- Whoever paints, a valid surface stays valid when a frame is drawn. -/
theorem steady_isValid (painter : Painter G τ) :
    (canvas painter).Steady (fun source => (painter.shade source).isSome) IsValid where
  answers _ _ _ := rfl
  buildShader _ _ valid := valid
  beginFrame clear _ valid := valid.beginFrame painter clear
  draw call surface valid := valid.of_shape (shape_draw painter call surface)

/-! ### Places -/

/-- A surface has a place in a column and row. -/
structure Holds (surface : Surface τ) (x y : UInt32) : Prop where
  column : x.toNat < surface.width
  row : y.toNat < surface.height

/-- The number by which a pixel is looked up. -/
def number (surface : Surface τ) (x y : UInt32) : Nat := y.toNat * surface.width + x.toNat

namespace IsValid

variable (valid : surface.IsValid)

include valid

theorem width_lt : surface.width < 2 ^ 29 := by
  have paintable := valid.paintable
  simp only [Picture.isPaintable, Bool.and_eq_true, decide_eq_true_eq] at paintable
  omega

theorem toNat_width : surface.frame.width.toNat = surface.width := by
  have short := valid.width_lt
  exact UInt32.toNat_ofNat_of_lt' (Nat.lt_trans short (by decide))

theorem toNat_height : surface.frame.height.toNat = surface.height :=
  UInt32.toNat_ofNat_of_lt' valid.rows

theorem holds_iff : surface.frame.Holds x y ↔ surface.Holds x y := by
  constructor
  · rintro ⟨column, row⟩
    exact ⟨valid.toNat_width ▸ column, valid.toNat_height ▸ row⟩
  · rintro ⟨column, row⟩
    refine ⟨?_, ?_⟩
    · rwa [UInt32.lt_iff_toNat_lt, valid.toNat_width]
    · rwa [UInt32.lt_iff_toNat_lt, valid.toNat_height]

theorem number_frame : surface.frame.number x y = surface.number x y := by
  rw [Frame.number, valid.toNat_width, number]

/-- Even the largest surfaces have few enough places for words. -/
theorem few : 4 * (surface.width * surface.height) < UInt64.size := by
  have short := valid.width_lt
  have low := valid.rows
  calc 4 * (surface.width * surface.height)
    _ ≤ 4 * (2 ^ 29 * 2 ^ 32) :=
      Nat.mul_le_mul_left 4 (Nat.mul_le_mul (Nat.le_of_lt short) (Nat.le_of_lt low))
    _ < UInt64.size := by decide

theorem number_lt (holds : surface.Holds x y) :
    surface.number x y < surface.width * surface.height := by
  rw [← valid.number_frame, ← valid.toNat_width, ← valid.toNat_height]
  exact (valid.holds_iff.mpr holds).number_lt

/-- Each number below that of the places is the number of a place, in this row or a later one. -/
theorem exists_place (inside : surface.number x y < surface.width * surface.height) :
    ∃ x' y', surface.Holds x' y' ∧ surface.number x' y' = surface.number x y ∧ y ≤ y' := by
  have wide : 0 < surface.width := Nat.pos_of_lt_mul_right inside
  have column : surface.number x y % surface.width < surface.width := Nat.mod_lt _ wide
  have row : surface.number x y / surface.width < surface.height :=
    Nat.div_lt_of_lt_mul inside
  have columnWord : surface.number x y % surface.width < UInt32.size :=
    Nat.lt_trans column (Nat.lt_trans valid.width_lt (by decide))
  have rowWord : surface.number x y / surface.width < UInt32.size :=
    Nat.lt_trans row valid.rows
  have sum := Nat.div_add_mod' (surface.number x y) surface.width
  refine ⟨UInt32.ofNat (surface.number x y % surface.width),
    UInt32.ofNat (surface.number x y / surface.width), ⟨?_, ?_⟩, ?_, ?_⟩
  · rwa [UInt32.toNat_ofNat_of_lt' columnWord]
  · rwa [UInt32.toNat_ofNat_of_lt' rowWord]
  · rw [number, UInt32.toNat_ofNat_of_lt' columnWord, UInt32.toNat_ofNat_of_lt' rowWord, sum]
  · rw [UInt32.le_iff_toNat_le, UInt32.toNat_ofNat_of_lt' rowWord, Nat.le_div_iff_mul_le wide]
    exact Nat.le_add_right _ _

/-- A place that the surface does not have, with the number of a place, is past the end of its row:
the number is that of a place in a later one. -/
theorem exists_later_place (outside : ¬surface.Holds x y)
    (inside : surface.number x y < surface.width * surface.height) :
    ∃ x' y', surface.Holds x' y' ∧ surface.number x' y' = surface.number x y ∧ y < y' := by
  obtain ⟨x', y', holds, same, below⟩ := valid.exists_place inside
  refine ⟨x', y', holds, same, UInt32.lt_of_le_of_ne below ?_⟩
  rintro rfl
  have column : x' = x := UInt32.toNat_inj.mp (Nat.add_left_cancel same)
  exact outside (column ▸ holds)

end IsValid

theorem length_rgba (surface : Surface τ) :
    surface.rgba.length = 4 * surface.picture.pixels.size := by
  rw [rgba, Bytes.length_flatMap_of_length fun pixel => pixel.colour.length_toList,
    Array.length_toList]

/-! ### The readers -/

/-- A frame has bytes for its places and no more than words can count, so that it shows the bytes
of a place's number, and nothing anywhere else. -/
theorem IsValid.frame_pixel (valid : surface.IsValid) :
    ∃ answer, surface.frame.pixel x y = .ok answer ∧ ∀ bytes, answer = some bytes ↔
      surface.Holds x y ∧ bytes = Bytes.group 4 (surface.number x y) surface.rgba := by
  have length : surface.frame.rgba.size = 4 * (surface.width * surface.height) :=
    surface.length_rgba.trans (congrArg (4 * ·) valid.full)
  by_cases holds : surface.Holds x y
  · have inside := valid.number_lt holds
    have few := valid.few
    rw [Frame.pixel_of_holds (valid.holds_iff.mpr holds), valid.number_frame, length,
      if_pos (by omega), if_pos (by omega)]
    refine ⟨_, rfl, fun bytes => ?_⟩
    simp only [holds, true_and, Option.some_inj, eq_comm]
    rfl
  · rw [Frame.pixel_of_not_holds (mt valid.holds_iff.mp holds)]
    exact ⟨none, rfl, fun bytes => ⟨nofun, fun shown => absurd shown.1 holds⟩⟩

theorem IsValid.frame_pixel_eq_some_iff (valid : surface.IsValid) {bytes : Bytes} :
    surface.frame.pixel x y = .ok (some bytes) ↔
      surface.Holds x y ∧ bytes = Bytes.group 4 (surface.number x y) surface.rgba := by
  obtain ⟨answer, shown, own⟩ := valid.frame_pixel
  rw [shown, ← own bytes, Except.ok.injEq]

/-- A surface shows the pixel of a number, wherever the place is. -/
theorem pixel_eq_some_iff (surface : Surface τ) {bytes : Bytes} :
    (surface.pixel x y).map Colour.toList = some bytes ↔
      surface.number x y < surface.picture.pixels.size ∧ surface.number x y < UInt32.size ∧
        bytes = Bytes.group 4 (surface.number x y) surface.rgba := by
  have unfolded : surface.pixel x y =
      if surface.number x y < UInt32.size then
        surface.picture.pixels[surface.number x y]?.map Pixel.colour
      else none := rfl
  rw [unfolded]
  generalize surface.number x y = number
  by_cases short : number < UInt32.size
  · rw [if_pos short]
    by_cases inside : number < surface.picture.pixels.size
    · have found : surface.picture.pixels.toList[number]? = some surface.picture.pixels[number] :=
        List.getElem?_eq_getElem inside
      have own : Bytes.group 4 number surface.rgba =
          surface.picture.pixels[number].colour.toList :=
        Bytes.group_flatMap (fun pixel => pixel.colour.length_toList) found
      rw [own, Array.getElem?_eq_getElem inside]
      simp [inside, short, eq_comm]
    · simp [inside]
  · simp [short]

theorem rgb_eq (surface : Surface τ) : surface.rgb = surface.rgba.withoutFourths :=
  (Bytes.withoutFourths_flatMap (fun pixel : Pixel => pixel.colour.length_toList) _).symm

theorem frame_rgb_eq (surface : Surface τ) : surface.frame.rgb = surface.rgba.withoutFourths :=
  Frame.dropAlpha_eq ⟨_, surface.length_rgba⟩

/-- **The readers agree wherever there is a pixel of a 32-bit number.** On a valid surface with any
pixels, the frame has a pixel in a column and row exactly if the surface has the place, and it is
the group of the place's number in all bytes; elsewhere it answers that there is none. The
surface's own pixel is the same in the places that it has, if the number is a 32-bit word. In a
place that the surface does not have, its pixel is that of the place in a later row whose number is
the same, if there is one. Both ways of leaving out alpha drop every fourth byte. -/
theorem readers_agree (surface : Surface τ) (valid : surface.IsValid) (x y : UInt32) :
    (∃ answer, surface.frame.pixel x y = .ok answer ∧ ∀ bytes, answer = some bytes ↔
      surface.Holds x y ∧ bytes = Bytes.group 4 (surface.number x y) surface.rgba) ∧
    (surface.Holds x y → surface.number x y < UInt32.size →
      surface.frame.pixel x y = .ok ((surface.pixel x y).map Colour.toList)) ∧
    (UInt32.size ≤ surface.number x y → surface.pixel x y = none) ∧
    (¬surface.Holds x y → surface.number x y < UInt32.size → ∀ bytes,
      (surface.pixel x y).map Colour.toList = some bytes ↔
        ∃ x' y', surface.Holds x' y' ∧ surface.number x' y' = surface.number x y ∧ y < y' ∧
          surface.frame.pixel x' y' = .ok (some bytes)) ∧
    surface.rgb = surface.rgba.withoutFourths ∧
    surface.frame.rgb = surface.rgba.withoutFourths := by
  refine ⟨valid.frame_pixel, ?_, ?_, ?_, surface.rgb_eq, surface.frame_rgb_eq⟩
  · intro holds short
    obtain ⟨answer, shown, own⟩ := valid.frame_pixel
    rw [shown, Except.ok.injEq]
    apply Option.ext
    intro bytes
    rw [own, surface.pixel_eq_some_iff, valid.full]
    simp [holds, short, valid.number_lt holds]
  · intro long
    exact if_neg (Nat.not_lt.mpr long)
  · intro outside short bytes
    rw [surface.pixel_eq_some_iff, valid.full]
    constructor
    · rintro ⟨inside, -, own⟩
      obtain ⟨x', y', holds, same, later⟩ := valid.exists_later_place outside inside
      exact ⟨x', y', holds, same, later,
        valid.frame_pixel_eq_some_iff.mpr ⟨holds, same.symm ▸ own⟩⟩
    · rintro ⟨x', y', holds, same, -, shown⟩
      obtain ⟨-, own⟩ := valid.frame_pixel_eq_some_iff.mp shown
      exact ⟨same ▸ valid.number_lt holds, short, same ▸ own⟩

/-- Two opaque pixels in a row. -/
theorem readers_agree_of_row :
    let surface : Surface Unit := { picture := ⟨2, 1, #[⟨1, 2, 3, 255⟩, ⟨4, 5, 6, 255⟩]⟩ }
    surface.IsValid ∧ surface.frame.pixel 1 0 = .ok ((surface.pixel 1 0).map Colour.toList) := by
  intro surface
  have valid : surface.IsValid := ⟨by decide, by decide, rfl⟩
  exact ⟨valid, (readers_agree surface valid 1 0).2.1 ⟨by decide, by decide⟩ (by decide)⟩

/-- On a new surface of two rows of two pixels, the column past the end of the first row shows the
first pixel of the second. Its frame shows nothing there. -/
theorem readers_not_always_agree :
    ¬∀ surface : Surface Unit, surface.IsValid → ∀ x y : UInt32,
      surface.frame.pixel x y = .ok ((surface.pixel x y).map Colour.toList) := by
  intro agree
  let surface : Surface Unit := { picture := .filled 2 2 .clear }
  have valid : surface.IsValid := isValid_filled (by decide) (by decide) _ _ _ _
  have same := agree surface valid 2 0
  have shown : surface.pixel 2 0 = some ⟨0, 0, 0, 0⟩ := by decide +kernel
  have hidden : surface.frame.pixel 2 0 = .ok none := by decide +kernel
  rw [shown, hidden] at same
  cases same

end Surface

/-! ### Surfaces of players -/

namespace Player

variable {G τ : Type} {painter : Painter G τ} {player : Player (Surface τ) (Shade G)}

/-- A command keeps a surface valid, if it asks for no size beyond 32-bit words. -/
theorem isValid_perform {command : Command}
    (sized : ∀ width height, command = .resize width height → height < UInt32.size)
    (valid : player.surface.IsValid) :
    (player.perform (Surface.screen painter) command).surface.IsValid := by
  cases command with
  | resize width height =>
      have resized : (player.surface.resize width height).2.IsValid :=
        valid.resize (sized width height rfl)
      simp only [perform, resize, Surface.screen]
      generalize player.surface.resize width height = outcome at resized ⊢
      rcases outcome with ⟨error | done, surface⟩ <;> exact resized
  | _ => exact valid

theorem isValid_tick (valid : player.surface.IsValid) :
    (player.tick (Surface.screen painter)).surface.IsValid := by
  have ends : ∀ surface : Surface τ, surface.IsValid →
      ((Surface.canvas painter).endFrame surface).2.IsValid :=
    fun _ valid => valid.of_shape rfl
  have redrawn := Scene.fits_redrawIfDirty (Surface.steady_isValid painter) ends player.scene valid
  unfold tick
  simp only [Surface.screen]
  generalize player.scene.redrawIfDirty (Surface.canvas painter) player.surface = outcome
    at redrawn ⊢
  rcases outcome with ⟨error | _ | report, scene, surface⟩ <;> exact redrawn

theorem isValid_serve (events : List Event) {player : Player (Surface τ) (Shade G)}
    (sized : ∀ width height, .command (.resize width height) ∈ events → height < UInt32.size)
    (valid : player.surface.IsValid) :
    (serve (Surface.screen painter) events player).surface.IsValid := by
  induction events generalizing player with
  | nil => exact valid
  | cons first rest ih =>
      have later := fun width height member =>
        sized width height (List.mem_cons_of_mem first member)
      cases first with
      | command command =>
          refine ih later (isValid_perform (fun width height same => ?_) valid)
          exact sized width height (same ▸ List.mem_cons_self)
      | tick => exact ih later (isValid_tick valid)
      | flush => exact ih later (isValid_tick valid)
      | shutdown => exact valid

/-- Whatever a player serves, its surface is valid. -/
theorem isValid_of_created {settings : Settings} (rows : settings.viewportHeight < UInt32.size)
    (created : create (Surface.screen painter) settings = .ok player) (events : List Event)
    (sized : ∀ width height, .command (.resize width height) ∈ events → height < UInt32.size) :
    (serve (Surface.screen painter) events player).surface.IsValid := by
  refine isValid_serve events sized ?_
  simp only [create, bind, Except.bind] at created
  split at created
  · cases created
  · rename_i surface made
    cases created
    exact Surface.isValid_create rows made

end Player

end ScenePlayer
