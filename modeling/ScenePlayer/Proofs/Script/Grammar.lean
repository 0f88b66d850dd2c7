import Mathlib.Data.List.Forall2
import ScenePlayer.Colour
import ScenePlayer.Paint.GradientKey
import ScenePlayer.Script.Record

/-!
The grammar of the wire format, apart from any decoder: `Grammar.Row` has a rule for
each row of the opcode table, and a script is any run of such records
(`Grammar.IsScript`).

Every record opens with its opcode and a two-byte field. Behind it stand four-byte
words, or a text with padding, or sprites. Scalars stand as their bit patterns, and a
colour as one word, red first.
-/

namespace ScenePlayer

namespace Grammar

/-- A record of four-byte words. -/
def wordRecord (code field : UInt16) (words : List UInt32) : Bytes :=
  Bytes.word16 code ++ (Bytes.word16 field ++ words.flatMap Bytes.word32)

/-- A record of one text. -/
def textRecord (code length : UInt16) (content pad : Bytes) : Bytes :=
  Bytes.word16 code ++ (Bytes.word16 length ++ (content ++ pad))

/-- The nine words of a sprite. -/
def spriteWords (s : Sprite) : List UInt32 :=
  [s.source.x.bits, s.source.y.bits, s.source.width.bits, s.source.height.bits,
    s.target.x.bits, s.target.y.bits, s.target.width.bits, s.target.height.bits, s.alpha.bits]

/-- A record of sprites: the length of the image's identifier and the number of
sprites come first. -/
def spritesRecord (code length : UInt16) (count : UInt32) (content pad : Bytes)
    (sprites : List Sprite) : Bytes :=
  Bytes.word16 code ++ (Bytes.word16 length ++ (Bytes.word32 count ++
    (content ++ (pad ++ (sprites.flatMap spriteWords).flatMap Bytes.word32))))

/-- A text of the announced length, with padding of any value to a multiple of four. -/
structure Padded (length : UInt16) (content pad : Bytes) : Prop where
  content_length : content.length = length.toNat
  pad_length : pad.length = (4 - length.toNat % 4) % 4

/-- The records of the opcode table, with the instruction that each stands for. A
reserved field `res` may have any value. Exact numbers count units of 2^-149, so a
quarter is 2^147 of them. -/
inductive Row : Instruction → Bytes → Prop where
  | drawLine (flags : DrawFlags) (p q : Point) :
      Row (.draw (.line p q) flags)
        (wordRecord 0x0001 flags.bits [p.x.bits, p.y.bits, q.x.bits, q.y.bits])
  | drawTriangle (flags : DrawFlags) (a b c : Point) :
      Row (.draw (.triangle a b c) flags)
        (wordRecord 0x0002 flags.bits
          [a.x.bits, a.y.bits, b.x.bits, b.y.bits, c.x.bits, c.y.bits])
  | drawQuad (flags : DrawFlags) (a b c d : Point) :
      Row (.draw (.quad a b c d) flags)
        (wordRecord 0x0003 flags.bits
          [a.x.bits, a.y.bits, b.x.bits, b.y.bits, c.x.bits, c.y.bits, d.x.bits, d.y.bits])
  | drawRect (flags : DrawFlags) (w h : Scalar) :
      Row (.draw (.rect w h) flags) (wordRecord 0x0004 flags.bits [w.bits, h.bits])
  | drawRoundedRect (flags : DrawFlags) (w h r : Scalar) :
      Row (.draw (.roundedRect w h r) flags)
        (wordRecord 0x0005 flags.bits [w.bits, h.bits, r.bits])
  | drawArc (flags : DrawFlags) (radius radians : Scalar) :
      Row (.draw (.arc radius radians) flags)
        (wordRecord 0x0006 flags.bits [radius.bits, radians.bits])
  | drawSector (flags : DrawFlags) (radius radians : Scalar) :
      Row (.draw (.sector radius radians) flags)
        (wordRecord 0x0007 flags.bits [radius.bits, radians.bits])
  | drawCircle (flags : DrawFlags) (radius : Scalar) :
      Row (.draw (.circle radius) flags) (wordRecord 0x0008 flags.bits [radius.bits])
  | drawEllipse (flags : DrawFlags) (rx ry : Scalar) :
      Row (.draw (.ellipse rx ry) flags) (wordRecord 0x0009 flags.bits [rx.bits, ry.bits])
  | drawText {length : UInt16} {content pad : Bytes} (text : Padded length content pad) :
      Row (.drawText (Utf8.read content)) (textRecord 0x000A length content pad)
  | drawSprites {length : UInt16} {content pad : Bytes} (text : Padded length content pad)
      {count : UInt32} {sprites : List Sprite} (number : sprites.length = count.toNat) :
      Row (.drawSprites (Utf8.read content) sprites)
        (spritesRecord 0x000B length count content pad sprites)
  | drawCorneredRect (flags : DrawFlags) (w h ul ur lr ll : Scalar) :
      Row (.draw (.corneredRect w h ⟨ul, ur, lr, ll⟩) flags)
        (wordRecord 0x000C flags.bits [w.bits, h.bits, ul.bits, ur.bits, lr.bits, ll.bits])
  | drawScript {length : UInt16} {content pad : Bytes} (text : Padded length content pad) :
      Row (.drawScript (Utf8.read content)) (textRecord 0x000F length content pad)
  | beginPath (res : UInt16) : Row .beginPath (wordRecord 0x0020 res [])
  | closePath (res : UInt16) : Row .closePath (wordRecord 0x0021 res [])
  | fillPath (res : UInt16) : Row .fillPath (wordRecord 0x0022 res [])
  | strokePath (res : UInt16) : Row .strokePath (wordRecord 0x0023 res [])
  | moveTo (res : UInt16) (p : Point) :
      Row (.moveTo p) (wordRecord 0x0026 res [p.x.bits, p.y.bits])
  | lineTo (res : UInt16) (p : Point) :
      Row (.lineTo p) (wordRecord 0x0027 res [p.x.bits, p.y.bits])
  | arcTo (res : UInt16) (tangent stop : Point) (radius : Scalar) :
      Row (.arcTo tangent stop radius)
        (wordRecord 0x0028 res
          [tangent.x.bits, tangent.y.bits, stop.x.bits, stop.y.bits, radius.bits])
  | bezierTo (res : UInt16) (c₁ c₂ p : Point) :
      Row (.bezierTo c₁ c₂ p)
        (wordRecord 0x0029 res
          [c₁.x.bits, c₁.y.bits, c₂.x.bits, c₂.y.bits, p.x.bits, p.y.bits])
  | quadraticTo (res : UInt16) (c p : Point) :
      Row (.quadraticTo c p) (wordRecord 0x002A res [c.x.bits, c.y.bits, p.x.bits, p.y.bits])
  | addTriangle (res : UInt16) (a b c : Point) :
      Row (.addShape (.triangle a b c))
        (wordRecord 0x002B res [a.x.bits, a.y.bits, b.x.bits, b.y.bits, c.x.bits, c.y.bits])
  | addQuad (res : UInt16) (a b c d : Point) :
      Row (.addShape (.quad a b c d))
        (wordRecord 0x002C res
          [a.x.bits, a.y.bits, b.x.bits, b.y.bits, c.x.bits, c.y.bits, d.x.bits, d.y.bits])
  | addRect (res : UInt16) (w h : Scalar) :
      Row (.addShape (.rect w h)) (wordRecord 0x002D res [w.bits, h.bits])
  | addRoundedRect (res : UInt16) (w h r : Scalar) :
      Row (.addShape (.roundedRect w h r)) (wordRecord 0x002E res [w.bits, h.bits, r.bits])
  | addSector (res : UInt16) (radius radians : Scalar) :
      Row (.addShape (.sector radius radians))
        (wordRecord 0x002F res [radius.bits, radians.bits])
  | addCircle (res : UInt16) (radius : Scalar) :
      Row (.addShape (.circle radius)) (wordRecord 0x0030 res [radius.bits])
  | addEllipse (res : UInt16) (rx ry : Scalar) :
      Row (.addShape (.ellipse rx ry)) (wordRecord 0x0031 res [rx.bits, ry.bits])
  | pathArc (res : UInt16) (centre : Point) (radius start stop : Scalar) (direction : UInt32) :
      Row (.pathArc centre radius start stop
          (if direction = 1 then .counterClockwise else .clockwise))
        (wordRecord 0x0032 res
          [centre.x.bits, centre.y.bits, radius.bits, start.bits, stop.bits, direction])
  | pushState (res : UInt16) : Row .pushState (wordRecord 0x0040 res [])
  | popState (res : UInt16) : Row .popState (wordRecord 0x0041 res [])
  | popPushState (res : UInt16) : Row .popPushState (wordRecord 0x0042 res [])
  | scissor (res : UInt16) (w h : Scalar) :
      Row (.scissor w h) (wordRecord 0x0044 res [w.bits, h.bits])
  | clipPath (mode : ClipMode) : Row (.clipPath mode) (wordRecord 0x0045 mode.code [])
  | transform (res : UInt16) (a b c d e f : Scalar) :
      Row (.transform ⟨a, b, c, d, e, f⟩)
        (wordRecord 0x0050 res [a.bits, b.bits, c.bits, d.bits, e.bits, f.bits])
  | scale (res : UInt16) (x y : Scalar) :
      Row (.scale x y) (wordRecord 0x0051 res [x.bits, y.bits])
  | rotate (res : UInt16) (radians : Scalar) :
      Row (.rotate radians) (wordRecord 0x0052 res [radians.bits])
  | translate (res : UInt16) (x y : Scalar) :
      Row (.translate x y) (wordRecord 0x0053 res [x.bits, y.bits])
  | fillColour (res : UInt16) (c : Colour) :
      Row (.paint .fill (.colour c)) (wordRecord 0x0060 res [c.word])
  | fillLinear (res : UInt16) (p q : Point) (c d : Colour) :
      Row (.paint .fill (.gradient (.linear p q c d)))
        (wordRecord 0x0061 res [p.x.bits, p.y.bits, q.x.bits, q.y.bits, c.word, d.word])
  | fillRadial (res : UInt16) (centre : Point) (inner outer : Scalar) (c d : Colour) :
      Row (.paint .fill (.gradient (.radial centre inner outer c d)))
        (wordRecord 0x0062 res
          [centre.x.bits, centre.y.bits, inner.bits, outer.bits, c.word, d.word])
  | fillImage {length : UInt16} {content pad : Bytes} (text : Padded length content pad) :
      Row (.paint .fill (.image (Utf8.read content))) (textRecord 0x0063 length content pad)
  | fillStream {length : UInt16} {content pad : Bytes} (text : Padded length content pad) :
      Row (.paint .fill (.stream (Utf8.read content))) (textRecord 0x0064 length content pad)
  | strokeWidth (quarters : UInt16) {width : Scalar}
      (quarter : width.exact = .finite false (quarters.toNat <<< 147)) :
      Row (.strokeWidth width) (wordRecord 0x0070 quarters [])
  | strokeColour (res : UInt16) (c : Colour) :
      Row (.paint .stroke (.colour c)) (wordRecord 0x0071 res [c.word])
  | strokeLinear (res : UInt16) (p q : Point) (c d : Colour) :
      Row (.paint .stroke (.gradient (.linear p q c d)))
        (wordRecord 0x0072 res [p.x.bits, p.y.bits, q.x.bits, q.y.bits, c.word, d.word])
  | strokeRadial (res : UInt16) (centre : Point) (inner outer : Scalar) (c d : Colour) :
      Row (.paint .stroke (.gradient (.radial centre inner outer c d)))
        (wordRecord 0x0073 res
          [centre.x.bits, centre.y.bits, inner.bits, outer.bits, c.word, d.word])
  | strokeImage {length : UInt16} {content pad : Bytes} (text : Padded length content pad) :
      Row (.paint .stroke (.image (Utf8.read content))) (textRecord 0x0074 length content pad)
  | strokeStream {length : UInt16} {content pad : Bytes} (text : Padded length content pad) :
      Row (.paint .stroke (.stream (Utf8.read content))) (textRecord 0x0075 length content pad)
  | lineCap (cap : LineCap) : Row (.lineCap cap) (wordRecord 0x0080 cap.code [])
  | lineJoin (join : LineJoin) : Row (.lineJoin join) (wordRecord 0x0081 join.code [])
  | miterLimit (value : UInt16) {limit : Scalar}
      (whole : limit.exact = .finite false (value.toNat <<< 149)) :
      Row (.miterLimit limit) (wordRecord 0x0082 value [])
  | font {length : UInt16} {content pad : Bytes} (text : Padded length content pad) :
      Row (.font (Utf8.read content)) (textRecord 0x0090 length content pad)
  | fontSize (quarters : UInt16) {size : Scalar}
      (quarter : size.exact = .finite false (quarters.toNat <<< 147)) :
      Row (.fontSize size) (wordRecord 0x0091 quarters [])
  | textAlign (align : TextAlign) : Row (.textAlign align) (wordRecord 0x0092 align.code [])
  | textBaseline (baseline : TextBaseline) :
      Row (.textBaseline baseline) (wordRecord 0x0093 baseline.code [])

/-- The bytes are a run of records of the table, one for each instruction in order. -/
def IsScript (instructions : List Instruction) (bytes : Bytes) : Prop :=
  ∃ records, List.Forall₂ Row instructions records ∧ records.flatten = bytes

end Grammar

end ScenePlayer
