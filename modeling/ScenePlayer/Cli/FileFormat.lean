import ScenePlayer.Asset.Png
import ScenePlayer.Raster.Frame
import ScenePlayer.Text.Pieces

/-!
Image file formats, told by the extension of a file's name. Frames are written
as PNG files; for the other formats that are known by name there is a reason why
they hold no frame.
-/

namespace ScenePlayer

inductive FileFormat where
  | png
  | jpeg
  /-- A format without an encoder. -/
  | named (name : String)
  deriving DecidableEq, Repr

/-- What can be put into a file. -/
structure FileContent where
  bytes : Bytes := []
  /-- Why that is not the whole of it. -/
  shortfall : Option String := none
  deriving DecidableEq, Repr

namespace FileFormat

/-- The format with a given extension, in letters of either case. -/
def ofExtension (extension : String) : Option FileFormat :=
  match extension.toLower with
  | "png" => some .png
  | "apng" => some .png
  | "jpg" => some .jpeg
  | "jpeg" => some .jpeg
  | "jfif" => some .jpeg
  | "webp" => some (.named "WebP")
  | "avif" => some (.named "Avif")
  | "gif" => some (.named "Gif")
  | "tif" => some (.named "Tiff")
  | "tiff" => some (.named "Tiff")
  | "tga" => some (.named "Tga")
  | "dds" => some (.named "Dds")
  | "bmp" => some (.named "Bmp")
  | "ico" => some (.named "Ico")
  | "hdr" => some (.named "Hdr")
  | "exr" => some (.named "OpenExr")
  | "pbm" => some (.named "Pnm")
  | "pam" => some (.named "Pnm")
  | "ppm" => some (.named "Pnm")
  | "pgm" => some (.named "Pnm")
  | "pnm" => some (.named "Pnm")
  | "ff" => some (.named "Farbfeld")
  | "qoi" => some (.named "Qoi")
  | _ => none

/-- What stands behind the last dot of a path's last name, if anything stands
before the dot. -/
def extension? (path : String) : Option String :=
  let name := path.toList.reverse.takeWhile (· ≠ '/')
  match splitFirst (· == '.') name with
  | some (back, _ :: _) => some (String.ofList back.reverse)
  | _ => none

/-- The format that a path asks for, or the reason why it asks for none. -/
def ofPath (path : String) : Except String FileFormat :=
  match extension? path with
  | none => .error "The image format could not be determined"
  | some extension =>
      match ofExtension extension with
      | some format => .ok format
      | none =>
          .error ("The file extension `.\"" ++ extension ++
            "\"` was not recognized as an image format")

/-- What a file of a format holds of a frame. -/
def content (frame : Frame) : FileFormat → FileContent
  | .png => { bytes := Png.write frame.width.toNat frame.height.toNat frame.rgba.toList }
  | .jpeg =>
      { shortfall := "The encoder or decoder for Jpeg does not support the color type `Rgba8`" }
  | .named name => { shortfall := s!"The image format `{name}` is not supported" }

end FileFormat

end ScenePlayer
