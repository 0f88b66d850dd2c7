import ScenePlayer.Raster.Painter

/-!
Shades: what a raster keeps of a gradient or an image to paint with. Gradients are
made once; the pattern of an image is made anew for every draw.
-/

namespace ScenePlayer

/-- A shader of a raster whose painter has gradients of type `G`. -/
inductive Shade (G : Type) where
  | gradient (gradient : G)
  | image (picture : Picture)
  deriving DecidableEq, Repr

namespace Painter

variable {G τ : Type} (painter : Painter G τ)

/-- Make a gradient, unless it is not finite. -/
def gradient : Gradient → Option G
  | .linear start stop first second =>
      if start.isFinite && stop.isFinite then painter.linear start stop first second else none
  | .radial centre innerRadius outerRadius first second =>
      if !(centre.isFinite && outerRadius.isFinite) || decide (outerRadius ≤ 0) then none
      else
        let ratio := innerRadius / outerRadius
        let inner := if ratio.isNaN then 0 else ratio.clamp 0 1
        painter.radial centre outerRadius inner first second

/-- Build the shade of a source, or decline. -/
def shade : ShaderSource → Option (Shade G)
  | .gradient gradient => (painter.gradient gradient).map .gradient
  | .texture texture =>
      if painter.reads texture.picture then some (.image texture.picture) else none

/-- What to lay on for a resolved paint. Images repeat from the origin. -/
def pigment : Ink (Shade G) → Pigment G
  | .solid colour => .colour colour
  | .shader (.gradient gradient) => .gradient gradient
  | .shader (.image picture) =>
      if painter.reads picture then .pattern picture .tile 1 .identity else .colour .transparent

end Painter

end ScenePlayer
