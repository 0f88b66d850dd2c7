import ScenePlayer.Canvas.Screen

/-!
Screens that repeat their frames. What such a screen shows of a frame is decided by the
size of the surface and the draws in it, as long as they draw no text: what a surface has
seen before makes no difference. The laws relate two surfaces between which no further
draw but a text will make a difference (`Agrees`); the start of a frame makes any two
surfaces of one size so.
-/

namespace ScenePlayer

variable {σ S : Type}

/-- A canvas whose frames succeed and depend on the sizes of surfaces alone. Shaders are
built from their sources by `builds`, on any surface and without a change to it. -/
structure Canvas.Repeats (canvas : Canvas σ S) (builds : ShaderSource → Option S)
    (size : σ → Nat × Nat) (Agrees : Nat × Nat → σ → σ → Prop) : Prop where
  buildShader : ∀ source surface, canvas.buildShader source surface = (builds source, surface)
  beginFrame : ∀ clear {surface other}, size surface = size other →
    ∃ opened otherOpened, canvas.beginFrame clear surface = (.ok (), opened) ∧
      canvas.beginFrame clear other = (.ok (), otherOpened) ∧
      Agrees (size surface) opened otherOpened
  fill : ∀ {extent surface other}, Agrees extent surface other → ∀ outline ink place,
    Agrees extent (canvas.fill outline ink place surface) (canvas.fill outline ink place other)
  stroke : ∀ {extent surface other}, Agrees extent surface other → ∀ outline ink style place,
    Agrees extent (canvas.stroke outline ink style place surface)
      (canvas.stroke outline ink style place other)
  sprite : ∀ {extent surface other}, Agrees extent surface other → ∀ image sprite place,
    Agrees extent (canvas.sprite image sprite place surface)
      (canvas.sprite image sprite place other)
  endFrame : ∀ {extent surface other}, Agrees extent surface other →
    ∃ ended otherEnded, canvas.endFrame surface = (.ok (), ended) ∧
      canvas.endFrame other = (.ok (), otherEnded) ∧ Agrees extent ended otherEnded
  size : ∀ {extent surface other}, Agrees extent surface other → size surface = extent

/-- A screen whose surfaces of one size take another size alike. One that is refused leaves
a surface as it is. -/
structure Screen.Resizes (screen : Screen σ S) (size : σ → Nat × Nat) : Prop where
  alike : ∀ (width height : Nat) {surface other}, size surface = size other →
    (screen.resize width height surface).1 = (screen.resize width height other).1 ∧
      size (screen.resize width height surface).2 = size (screen.resize width height other).2
  refused : ∀ {width height : Nat} {surface : σ} {error : CanvasError},
    (screen.resize width height surface).1 = .error error →
      (screen.resize width height surface).2 = surface

/-- A screen that repeats its frames. -/
structure Screen.Repeats (screen : Screen σ S) (builds : ShaderSource → Option S)
    (size : σ → Nat × Nat) (Agrees : Nat × Nat → σ → σ → Prop) : Prop
    extends screen.Resizes size, screen.canvas.Repeats builds size Agrees where
  frame : ∀ {extent surface other}, Agrees extent surface other →
    screen.frame surface = screen.frame other

end ScenePlayer
