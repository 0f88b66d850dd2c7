import ScenePlayer.Proofs.Canvas.Repeats
import ScenePlayer.Raster.Surface

/-!
What a drawing depends on, whoever paints. Apart from text, which needs the fonts loaded
so far, a draw reads and changes the picture and the clip masks of a surface and nothing
else, and it keeps the size. Surfaces of one size with the same picture and masks
(`Surface.Agrees`) therefore stay so; the start of a frame makes any two surfaces of one
size so. So a raster repeats its frames (`repeats_screen`). No draw, text included, changes
the size of a surface or the number of its pixels (`Surface.shape`).
-/

namespace ScenePlayer

namespace Surface

variable {G τ : Type}

def size (surface : Surface τ) : Nat × Nat := (surface.width, surface.height)

/-! ### Sizes -/

section Resize

variable (width height : Nat) (surface : Surface τ)

theorem answer_resize : (surface.resize width height).1 =
    if surface.size = (width, height) ∨ Picture.isPaintable width height = true then .ok ()
    else .error (.invalidSize width height) := by
  simp only [resize, size, Prod.mk.injEq]
  by_cases same : surface.width = width ∧ surface.height = height
  · rw [if_pos same, if_pos (.inl same)]
  · simp only [same, if_false, false_or]
    split <;> rfl

/-- A size that a surface can have is its size afterwards, and any other changes nothing. -/
theorem size_resize : (surface.resize width height).2.size =
    if Picture.isPaintable width height then (width, height) else surface.size := by
  simp only [resize]
  by_cases same : surface.width = width ∧ surface.height = height
  · obtain ⟨rfl, rfl⟩ := same
    simp only [true_and, if_true]
    exact (ite_self _).symm
  · simp only [same, if_false]
    split <;> rfl

end Resize

theorem resizes_screen (painter : Painter G τ) : (screen painter).Resizes size where
  alike width height surface other same := by
    simp only [screen, answer_resize, size_resize, same, and_self]
  refused {width height surface error} refused := by
    simp only [screen, resize] at refused ⊢
    by_cases same : surface.width = width ∧ surface.height = height
    · simp only [same, and_self, if_true]
    · by_cases paintable : Picture.isPaintable width height = true
      · simp only [same, paintable, if_true, if_false] at refused
        cases refused
      · simp only [same, paintable, if_false, Bool.false_eq_true]

/-! ### Agreement -/

/-- Two surfaces of a size show the same and clip alike. -/
structure Agrees (extent : Nat × Nat) (surface other : Surface τ) : Prop where
  picture : surface.picture = other.picture
  clips : surface.clips = other.clips
  size : surface.size = extent

section Agrees

variable {extent : Nat × Nat} {surface other : Surface τ}
  (agrees : Agrees extent surface other)

include agrees

/-- Surfaces that agree differ in their fonts and in their number of frames. -/
theorem Agrees.eq : other = { surface with fonts := other.fonts, frames := other.frames } := by
  obtain ⟨picture, clips, fonts, frames⟩ := surface
  obtain ⟨rfl, rfl, -⟩ := agrees
  rfl

theorem Agrees.paint (painter : Painter G τ) (clip : Clip) (work : Option Mask → Paintwork) :
    Agrees extent (surface.paint painter clip work) (other.paint painter clip work) := by
  rw [agrees.eq]
  exact ⟨rfl, rfl, agrees.size⟩

theorem Agrees.stroke (painter : Painter G τ) (outline : Outline) (ink : Ink (Shade G))
    (style : StrokeStyle) (place : Placement) :
    Agrees extent (surface.stroke painter outline ink style place)
      (other.stroke painter outline ink style place) := by
  unfold Surface.stroke
  split
  · exact agrees
  · exact agrees.paint painter place.clip _

theorem Agrees.sprite (painter : Painter G τ) (image : Picture) (sprite : Sprite)
    (place : Placement) :
    Agrees extent (surface.sprite painter image sprite place)
      (other.sprite painter image sprite place) := by
  unfold Surface.sprite
  dsimp only
  split
  · exact agrees
  · split
    · exact agrees
    · exact agrees.paint painter place.clip _

end Agrees

/-- Whoever paints, a raster repeats its frames. -/
theorem repeats_screen (painter : Painter G τ) :
    (screen painter).Repeats painter.shade size Agrees where
  toResizes := resizes_screen painter
  buildShader _ _ := rfl
  beginFrame clear surface other same := by
    refine ⟨_, _, rfl, rfl, ?_, rfl, rfl⟩
    obtain ⟨width, height⟩ := Prod.mk.inj same
    simp only [beginFrame, width, height]
  fill agrees _ _ place := agrees.paint painter place.clip _
  stroke agrees := agrees.stroke painter
  sprite agrees := agrees.sprite painter
  endFrame agrees := ⟨_, _, rfl, rfl, agrees.picture, agrees.clips, agrees.size⟩
  size agrees := agrees.size
  frame agrees := by
    rw [agrees.eq]
    rfl

/-! ### Shapes -/

/-- The size of a surface and the number of its pixels. -/
def shape (surface : Surface τ) : Nat × Nat × Nat :=
  (surface.width, surface.height, surface.picture.pixels.size)

section Shape

variable (painter : Painter G τ) (surface : Surface τ)

/-- What is painted has as many pixels as before. -/
theorem shape_paint (clip : Clip) (work : Option Mask → Paintwork) :
    (surface.paint painter clip work).shape = surface.shape :=
  congrArg (surface.width, surface.height, ·) (work _ surface.picture).property

theorem shape_paintGlyphs (glyphs : Glyphs) (ink : Ink (Shade G)) (place : Placement) :
    (surface.paintGlyphs painter glyphs ink place).shape = surface.shape := by
  unfold Surface.paintGlyphs
  dsimp only
  split
  · exact shape_paint painter surface place.clip _
  · rfl

/-- Loading fonts for a text changes nothing that is seen. -/
theorem shape_text (run : TextRun) (ink : Ink (Shade G)) (place : Placement) :
    (surface.text painter run ink place).shape = surface.shape := by
  unfold Surface.text
  split
  · rfl
  · exact shape_paintGlyphs painter _ _ ink place

theorem shape_stroke (outline : Outline) (ink : Ink (Shade G)) (style : StrokeStyle)
    (place : Placement) :
    (surface.stroke painter outline ink style place).shape = surface.shape := by
  unfold Surface.stroke
  split
  · rfl
  · exact shape_paint painter surface place.clip _

theorem shape_sprite (image : Picture) (sprite : Sprite) (place : Placement) :
    (surface.sprite painter image sprite place).shape = surface.shape := by
  unfold Surface.sprite
  dsimp only
  split
  · rfl
  · split
    · rfl
    · exact shape_paint painter surface place.clip _

end Shape

end Surface

end ScenePlayer
