import ScenePlayer.Paint.ShaderCache
import ScenePlayer.State.DrawState

/-!
Canvases: what a replay draws on. A canvas is given by its operations on a state
`σ`, with shaders of type `S`. Draws never fail; only the bounds of a frame
report errors.
-/

namespace ScenePlayer

inductive CanvasError where
  | invalidSize (width height : Nat)
  | lost (reason : String)
  | present (reason : String)
  deriving DecidableEq, Repr

def CanvasError.message : CanvasError → String
  | .invalidSize width height => s!"surface size {width}x{height} is invalid"
  | .lost reason => s!"surface lost: {reason}"
  | .present reason => s!"failed to present frame: {reason}"

/-- Where a draw goes. -/
structure Placement where
  /-- From local to surface coordinates. -/
  transform : Transform
  clip : Clip
  deriving DecidableEq, Repr

def DrawState.placement (state : DrawState) : Placement := ⟨state.transform, state.clip⟩

/-- A text anchored at the local origin, with the font that is registered under
the name in its style, if any. -/
structure TextRun where
  text : String
  style : TextStyle
  font : Option Font
  deriving DecidableEq, Repr

/-- The operations of a canvas. -/
structure Canvas (σ : Type) (S : Type) where
  /-- Build a shader, or decline. -/
  buildShader : ShaderSource → σ → Option S × σ
  /-- Start a frame whose pixels all have the given colour. -/
  beginFrame : Colour → σ → Except CanvasError Unit × σ
  /-- Fill an outline by the non-zero winding rule. -/
  fill : Outline → Ink S → Placement → σ → σ
  stroke : Outline → Ink S → StrokeStyle → Placement → σ → σ
  text : TextRun → Ink S → Placement → σ → σ
  sprite : Picture → Sprite → Placement → σ → σ
  /-- Finish the frame and present it. -/
  endFrame : σ → Except CanvasError Unit × σ

end ScenePlayer
