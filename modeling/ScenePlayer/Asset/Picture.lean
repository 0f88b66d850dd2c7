import ScenePlayer.Colour

/-!
Pictures: decoded pixels, multiplied by their alpha. Raw uploads come in a
handful of pixel formats; an upload has to have exactly the bytes that its size
and format ask for, and its size has to be addressable in 64 bits. How image
files are read is left to a decoder.
-/

namespace ScenePlayer

/-- A pixel whose colour channels are multiplied by its alpha. -/
structure Pixel where
  red : UInt8
  green : UInt8
  blue : UInt8
  alpha : UInt8
  deriving DecidableEq, Repr, Inhabited

namespace Pixel

def clear : Pixel := ⟨0, 0, 0, 0⟩

def toList (p : Pixel) : Bytes := [p.red, p.green, p.blue, p.alpha]

/-- A channel times an alpha of 255ths, rounded to the nearest. -/
def scale (channel alpha : UInt8) : UInt8 :=
  UInt8.ofNat ((channel.toNat * alpha.toNat + 127) / 255)

/-- Multiply straight channels by their alpha. -/
def ofStraight (red green blue alpha : UInt8) : Pixel :=
  ⟨scale red alpha, scale green alpha, scale blue alpha, alpha⟩

end Pixel

/-- A colour as a pixel. -/
def Colour.premultiplied (c : Colour) : Pixel := .ofStraight c.red c.green c.blue c.alpha

/-- The layout of an uploaded texture. -/
inductive TextureFormat where
  | rgba
  | rgb
  | gray
  | grayAlpha
  /-- An image file, whose size is in the file. -/
  | file
  deriving DecidableEq, Repr

namespace TextureFormat

/-- Bytes a pixel; a file has no fixed number. -/
def channels : TextureFormat → Option Nat
  | .rgba => some 4
  | .rgb => some 3
  | .gray => some 1
  | .grayAlpha => some 2
  | .file => none

/-- The format of a given name. -/
def ofName : String → Option TextureFormat
  | "rgba" => some .rgba
  | "rgb" => some .rgb
  | "g" => some .gray
  | "ga" => some .grayAlpha
  | "file" => some .file
  | _ => none

/-- The pixels of a raw upload. -/
def pixels : TextureFormat → Bytes → List Pixel
  | .rgba, r :: g :: b :: a :: rest => Pixel.ofStraight r g b a :: pixels .rgba rest
  | .rgb, r :: g :: b :: rest => Pixel.ofStraight r g b 255 :: pixels .rgb rest
  | .gray, l :: rest => Pixel.ofStraight l l l 255 :: pixels .gray rest
  | .grayAlpha, l :: a :: rest => Pixel.ofStraight l l l a :: pixels .grayAlpha rest
  | _, _ => []

end TextureFormat

/-- Pixels row by row, without gaps. -/
structure Picture where
  width : Nat
  height : Nat
  pixels : Array Pixel
  deriving DecidableEq, Repr

namespace Picture

def bytes (picture : Picture) : Bytes := picture.pixels.toList.flatMap Pixel.toList

/-- The pixel at a place; transparent outside. -/
def pixel (picture : Picture) (x y : Nat) : Pixel :=
  picture.pixels.getD (y * picture.width + x) Pixel.clear

end Picture

/-- What an image file shows: straight colours row by row, one for each place. -/
structure StraightImage where
  width : Nat
  height : Nat
  colours : Array Colour
  full : colours.size = width * height
  deriving DecidableEq, Repr

/-- A reader of image files. It says why it cannot read a file, the outermost
reason first. -/
abbrev ImageDecoder : Type := Bytes → Except (List String) StraightImage

/-- Why an asset is refused. -/
inductive AssetError where
  | undecodable (causes : List String)
  | sizeMismatch (width height expected actual : Nat)
  | unknownFormat (name : String)
  | zeroSize
  | tooLarge (width height : Nat)
  | emptyFont
  deriving DecidableEq, Repr

def AssetError.message : AssetError → String
  | .undecodable _ => "failed to decode image data"
  | .sizeMismatch width height expected actual =>
      s!"texture data is {actual} bytes, expected {expected} for {width}x{height}"
  | .unknownFormat name => s!"unknown texture format `{name}`"
  | .zeroSize => "texture has zero size"
  | .tooLarge width height => s!"texture size {width}x{height} is too large"
  | .emptyFont => "font data is empty"

/-- The format of a given name, or the error that names it. -/
def TextureFormat.parse (name : String) : Except AssetError TextureFormat :=
  match TextureFormat.ofName name with
  | some format => .ok format
  | none => .error (.unknownFormat name)

/-- A picture from a raw upload with `channels` bytes a pixel. A side of zero is
refused first, then a size past 64 bits, then a wrong number of bytes. -/
def Picture.ofUpload (format : TextureFormat) (channels width height : Nat) (bytes : Bytes) :
    Except AssetError Picture :=
  let expected := width * height * channels
  if width = 0 ∨ height = 0 then .error .zeroSize
  else if UInt64.size ≤ expected then .error (.tooLarge width height)
  else if bytes.length ≠ expected then .error (.sizeMismatch width height expected bytes.length)
  else .ok ⟨width, height, (format.pixels bytes).toArray⟩

/-- The picture of straight colours. There is none without pixels. -/
def Picture.ofStraight (image : StraightImage) : Except AssetError Picture :=
  if image.width = 0 ∨ image.height = 0 then .error .zeroSize
  else .ok ⟨image.width, image.height, image.colours.map Colour.premultiplied⟩

/-- The picture in an image file. -/
def Picture.ofFile (decoder : ImageDecoder) (bytes : Bytes) : Except AssetError Picture :=
  match decoder bytes with
  | .ok image => Picture.ofStraight image
  | .error causes => .error (.undecodable causes)

/-- A picture from an uploaded texture. The size of a file is the file's own. -/
def Picture.ofTexture (decoder : ImageDecoder) (format : TextureFormat) (width height : Nat)
    (bytes : Bytes) : Except AssetError Picture :=
  match format.channels with
  | none => Picture.ofFile decoder bytes
  | some channels => Picture.ofUpload format channels width height bytes

end ScenePlayer
