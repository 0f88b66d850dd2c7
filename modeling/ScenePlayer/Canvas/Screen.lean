import ScenePlayer.Canvas.Basic
import ScenePlayer.Raster.Frame

/-!
Screens: canvases whose surfaces can be made in a size, given another one, and read
back as frames.
-/

namespace ScenePlayer

structure Screen (σ S : Type) where
  canvas : Canvas σ S
  create : (width height : Nat) → Except CanvasError σ
  /-- Give a surface another size; the surface is as before if that is refused. -/
  resize : (width height : Nat) → σ → Except CanvasError Unit × σ
  /-- What a surface shows. -/
  frame : σ → Frame

end ScenePlayer
