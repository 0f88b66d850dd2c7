import ScenePlayer.Asset.Png
import ScenePlayer.Cli.Render
import ScenePlayer.Raster.Crisp
import ScenePlayer.Settings.Json

/-! A backend for the program that needs nothing else. -/

namespace ScenePlayer

/-- Paint without anti-aliasing, and read plain PNG files and JSON. -/
def Backend.plain : Backend (Surface FontShelf) (Shade Ramp) where
  screen := Surface.screen .crisp
  decoder := Png.decoder
  reader := Document.read?

end ScenePlayer
