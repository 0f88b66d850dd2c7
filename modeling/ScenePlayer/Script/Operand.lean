import ScenePlayer.Bytes.Utf8
import ScenePlayer.Script.Extent

/-!
What the operands of a whole record say. Scalars are taken over bit for bit,
texts are read as UTF-8, and enumerated fields are refused outside their range.
-/

namespace ScenePlayer

def LineCap.ofCode : Nat → Option LineCap
  | 0 => some .butt
  | 1 => some .round
  | 2 => some .square
  | _ => none

def LineJoin.ofCode : Nat → Option LineJoin
  | 0 => some .bevel
  | 1 => some .round
  | 2 => some .miter
  | _ => none

def TextAlign.ofCode : Nat → Option TextAlign
  | 0 => some .left
  | 1 => some .center
  | 2 => some .right
  | _ => none

def TextBaseline.ofCode : Nat → Option TextBaseline
  | 0 => some .top
  | 1 => some .middle
  | 2 => some .alphabetic
  | 3 => some .bottom
  | _ => none

def ClipMode.ofCode : Nat → Option ClipMode
  | 0 => some .intersect
  | 1 => some .difference
  | _ => none

/-- 1 is counter-clockwise, every other word clockwise. -/
def Turn.ofCode (code : UInt32) : Turn := if code = 1 then .counterClockwise else .clockwise

/-- The shape of a kind whose scalars are `s 0`, `s 1`, … -/
def Shape.ofScalars (s : Nat → Scalar) : ShapeKind → Shape
  | .line => .line ⟨s 0, s 1⟩ ⟨s 2, s 3⟩
  | .triangle => .triangle ⟨s 0, s 1⟩ ⟨s 2, s 3⟩ ⟨s 4, s 5⟩
  | .quad => .quad ⟨s 0, s 1⟩ ⟨s 2, s 3⟩ ⟨s 4, s 5⟩ ⟨s 6, s 7⟩
  | .rect => .rect (s 0) (s 1)
  | .roundedRect => .roundedRect (s 0) (s 1) (s 2)
  | .corneredRect => .corneredRect (s 0) (s 1) ⟨s 2, s 3, s 4, s 5⟩
  | .arc => .arc (s 0) (s 1)
  | .sector => .sector (s 0) (s 1)
  | .circle => .circle (s 0)
  | .ellipse => .ellipse (s 0) (s 1)

/-- The sprites that a run of words describes, nine words each. -/
def Sprite.ofWords : List UInt32 → List Sprite
  | a :: b :: c :: d :: e :: f :: g :: h :: i :: rest =>
      ⟨⟨⟨a⟩, ⟨b⟩, ⟨c⟩, ⟨d⟩⟩, ⟨⟨e⟩, ⟨f⟩, ⟨g⟩, ⟨h⟩⟩, ⟨i⟩⟩ :: Sprite.ofWords rest
  | _ => []

namespace Operands

/-- The two-byte field that opens the operands. -/
def field (operands : Bytes) : UInt16 := Bytes.front16 operands

/-- Word `i` behind the field. -/
def word (operands : Bytes) (i : Nat) : UInt32 := Bytes.front32 (operands.drop (2 + 4 * i))

def scalar (operands : Bytes) (i : Nat) : Scalar := ⟨word operands i⟩

/-- The point whose coordinates are words `i` and `i + 1`. -/
def point (operands : Bytes) (i : Nat) : Point := ⟨scalar operands i, scalar operands (i + 1)⟩

def colour (operands : Bytes) (i : Nat) : Colour := Colour.ofWord (word operands i)

/-- The text behind the field, which holds its length. -/
def text (operands : Bytes) : String :=
  Utf8.read ((operands.drop 2).take (field operands).toNat)

/-- The identifier behind the field and the sprite count. -/
def spriteImage (operands : Bytes) : String :=
  Utf8.read ((operands.drop 6).take (field operands).toNat)

/-- The sprites behind the identifier. -/
def sprites (operands : Bytes) : List Sprite :=
  Sprite.ofWords (Bytes.words (operands.drop (6 + padded (field operands).toNat)))

/-- An enumerated field through its table; the bare value if it has no meaning. -/
def enumerated {α : Type} (table : Nat → Option α) (operands : Bytes) : Except UInt16 α :=
  match table (field operands).toNat with
  | some meaning => .ok meaning
  | none => .error (field operands)

/-- A paint from its operands. -/
def paint (operands : Bytes) : PaintKind → Paint
  | .colour => .colour (colour operands 0)
  | .linear =>
      .gradient (.linear (point operands 0) (point operands 2) (colour operands 4)
        (colour operands 5))
  | .radial =>
      .gradient (.radial (point operands 0) (scalar operands 2) (scalar operands 3)
        (colour operands 4) (colour operands 5))
  | .image => .image (text operands)
  | .stream => .stream (text operands)

end Operands

open Operands in
/-- The instruction that a record of opcode `op` with the given operands stands
for, or the value of its enumerated field if that has no meaning. -/
def Opcode.read (op : Opcode) (operands : Bytes) : Except UInt16 Instruction :=
  match op with
  | .draw kind => .ok (.draw (Shape.ofScalars (scalar operands) kind) ⟨field operands⟩)
  | .drawText => .ok (.drawText (text operands))
  | .drawSprites => .ok (.drawSprites (spriteImage operands) (sprites operands))
  | .drawScript => .ok (.drawScript (text operands))
  | .beginPath => .ok .beginPath
  | .closePath => .ok .closePath
  | .fillPath => .ok .fillPath
  | .strokePath => .ok .strokePath
  | .moveTo => .ok (.moveTo (point operands 0))
  | .lineTo => .ok (.lineTo (point operands 0))
  | .arcTo => .ok (.arcTo (point operands 0) (point operands 2) (scalar operands 4))
  | .bezierTo => .ok (.bezierTo (point operands 0) (point operands 2) (point operands 4))
  | .quadraticTo => .ok (.quadraticTo (point operands 0) (point operands 2))
  | .addTriangle => .ok (.addShape (Shape.ofScalars (scalar operands) .triangle))
  | .addQuad => .ok (.addShape (Shape.ofScalars (scalar operands) .quad))
  | .addRect => .ok (.addShape (Shape.ofScalars (scalar operands) .rect))
  | .addRoundedRect => .ok (.addShape (Shape.ofScalars (scalar operands) .roundedRect))
  | .addSector => .ok (.addShape (Shape.ofScalars (scalar operands) .sector))
  | .addCircle => .ok (.addShape (Shape.ofScalars (scalar operands) .circle))
  | .addEllipse => .ok (.addShape (Shape.ofScalars (scalar operands) .ellipse))
  | .pathArc =>
      .ok (.pathArc (point operands 0) (scalar operands 2) (scalar operands 3)
        (scalar operands 4) (Turn.ofCode (word operands 5)))
  | .pushState => .ok .pushState
  | .popState => .ok .popState
  | .popPushState => .ok .popPushState
  | .scissor => .ok (.scissor (scalar operands 0) (scalar operands 1))
  | .clipPath => (enumerated ClipMode.ofCode operands).map .clipPath
  | .transform =>
      .ok (.transform ⟨scalar operands 0, scalar operands 1, scalar operands 2,
        scalar operands 3, scalar operands 4, scalar operands 5⟩)
  | .scale => .ok (.scale (scalar operands 0) (scalar operands 1))
  | .rotate => .ok (.rotate (scalar operands 0))
  | .translate => .ok (.translate (scalar operands 0) (scalar operands 1))
  | .paint slot kind => .ok (.paint slot (Operands.paint operands kind))
  | .strokeWidth => .ok (.strokeWidth (Scalar.ofQuarters (field operands)))
  | .lineCap => (enumerated LineCap.ofCode operands).map .lineCap
  | .lineJoin => (enumerated LineJoin.ofCode operands).map .lineJoin
  | .miterLimit => .ok (.miterLimit (Scalar.ofNat (field operands).toNat))
  | .font => .ok (.font (text operands))
  | .fontSize => .ok (.fontSize (Scalar.ofQuarters (field operands)))
  | .textAlign => (enumerated TextAlign.ofCode operands).map .textAlign
  | .textBaseline => (enumerated TextBaseline.ofCode operands).map .textBaseline

end ScenePlayer
