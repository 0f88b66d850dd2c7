import ScenePlayer.Canvas.Basic
import ScenePlayer.Text.Face
import ScenePlayer.Text.Pieces

/-!
Blocks of text. A text is cut into lines at line feeds; the glyphs of a line
follow each other by their advances. A line is 1.2 sizes high, and its baseline
is placed so that the ascent and the descent of its glyphs lie in the middle.
Lines start at the left edge of the block, whatever the alignment: alignment and
baseline move the block as a whole.
-/

namespace ScenePlayer

/-- The least whole number that is not below a scalar; 0 for negative ones and
for what is no number. -/
def Scalar.ceiling (x : Scalar) : Nat :=
  match x.exact with
  | .finite false n => (n + ((1 <<< 149) - 1)) >>> 149
  | _ => 0

/-- An integer as a scalar. -/
def Scalar.ofInt (n : Int) : Scalar :=
  if n < 0 then -Scalar.ofNat n.natAbs else Scalar.ofNat n.natAbs

/-- A rectangle of ink in a block. -/
structure InkBox where
  left : Float
  top : Float
  right : Float
  bottom : Float

def InkBox.holds (box : InkBox) (x y : Float) : Bool :=
  box.left ≤ x && x < box.right && box.top ≤ y && y < box.bottom

/-- Glyphs set one behind the other, with the pen behind them. Ink is placed
from the start of the line on its baseline. -/
structure SetLine where
  width : Scalar := 0
  ascent : Scalar := 0
  descent : Scalar := 0
  ink : List InkBox := []

namespace SetLine

/-- A number of face units at a text size. -/
def scaled (size : Scalar) (face : Face) (units : Int) : Scalar :=
  Scalar.ofInt units / Scalar.ofNat face.unitsPerEm * size

/-- The face that has a character and its glyph: the first of the faces that has
it, or the missing glyph of the first one. -/
def choose (faces : List Face) (c : Char) : Option (Face × Glyph) :=
  match faces.findSome? fun face => (face.glyph? c).map (face, ·) with
  | some found => some found
  | none => faces.head?.map fun face => (face, face.missing)

/-- Set one more character. -/
def add (faces : List Face) (size : Scalar) (line : SetLine) (c : Char) : SetLine :=
  match choose faces c with
  | none => line
  | some (face, glyph) =>
      let pen := line.width.toFloat
      let reach := fun units => (scaled size face units).toFloat
      { width := line.width + scaled size face glyph.advance
        ascent := line.ascent.greatest (scaled size face face.ascender)
        descent := line.descent.greatest (-scaled size face face.descender)
        ink :=
          match glyph.box with
          | none => line.ink
          | some box =>
              ⟨pen + reach box.left, -reach box.top, pen + reach box.right, -reach box.bottom⟩ ::
                line.ink }

def ofCharacters (faces : List Face) (size : Scalar) (characters : List Char) : SetLine :=
  characters.foldl (add faces size) {}

end SetLine

/-- A text set in lines. Ink is placed from the upper left corner of the block. -/
structure TextBlock where
  width : Scalar
  height : Scalar
  lineHeight : Scalar
  /-- The height of the first baseline. -/
  baseline : Scalar
  ink : List InkBox

namespace TextBlock

/-- The height of a line of size 1. -/
def lineFactor : Scalar := ⟨0x3f99999a⟩

/-- How far below the top of a line its baseline is. -/
def baselineOf (lineHeight : Scalar) (line : SetLine) : Scalar :=
  (lineHeight - (line.ascent + line.descent)) / 2 + line.ascent

/-- Set a text in the first of the faces, with the others for characters that it
does not have. -/
def ofText (faces : List Face) (size : Scalar) (text : String) : TextBlock :=
  let lineHeight := size * lineFactor
  let lines := (pieces '\n' text.toList).map (SetLine.ofCharacters faces size)
  let placed := lines.zipIdx.map fun (line, i) =>
    let top := Scalar.ofNat i * lineHeight
    (line, top, top + baselineOf lineHeight line)
  { width := lines.foldl (fun width line => width.greatest line.width) 0
    height := placed.foldl (fun height (_, top, _) => height.greatest (top + lineHeight)) 0
    lineHeight
    baseline := baselineOf lineHeight (lines.headD {})
    ink := placed.flatMap fun (line, _, baseline) =>
      let y := baseline.toFloat
      line.ink.map fun box => ⟨box.left, y + box.top, box.right, y + box.bottom⟩ }

/-- Where the block starts, seen from the anchor of the text. -/
def offset (block : TextBlock) (align : TextAlign) (baseline : TextBaseline) : Point :=
  ⟨match align with
    | .left => 0
    | .center => -block.width / 2
    | .right => -block.width,
  match baseline with
    | .top => 0
    | .middle => -(block.lineHeight / 2)
    | .alphabetic => -block.baseline
    | .bottom => -block.lineHeight⟩

end TextBlock

/-- A block with a margin for ink that reaches out of it, cut into pixels. -/
structure TextLayer where
  /-- Where the layer starts, seen from the anchor of the text. -/
  origin : Point
  margin : Nat
  width : Nat
  height : Nat
  ink : List InkBox

namespace TextLayer

/-- The layer of a text in a given style. The margin is half of the size. -/
def ofText (faces : List Face) (style : TextStyle) (text : String) : TextLayer :=
  let block := TextBlock.ofText faces style.size text
  let margin := (style.size / 2).ceiling
  let offset := block.offset style.align style.baseline
  let pad := Scalar.ofNat margin
  { origin := ⟨offset.x - pad, offset.y - pad⟩
    margin
    width := (block.width + 2 * pad).ceiling
    height := (block.height + 2 * pad).ceiling
    ink := block.ink }

/-- Whether the pixel in column `x` and row `y` of the layer has ink. -/
def hasInk (layer : TextLayer) (x y : Nat) : Bool :=
  decide (x < layer.width) && decide (y < layer.height) &&
    layer.ink.any fun box =>
      box.holds (x.toFloat + 0.5 - layer.margin.toFloat) (y.toFloat + 0.5 - layer.margin.toFloat)

end TextLayer

end ScenePlayer
