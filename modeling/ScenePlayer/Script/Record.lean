import ScenePlayer.Script.Decoder

/-!
Writing scripts: the records that an author can write, their bytes
(`Record.encode`) and the instruction that each is read back as
(`Record.instruction`). Reserved fields and padding are written as zeros.

Three records carry more than their instruction keeps: widths and sizes are
rounded to quarter units, and a path arc carries its whole direction word.
-/

namespace ScenePlayer

/-- A record as its author writes it. -/
inductive Record where
  | pushState
  | popState
  | popPushState
  | translate (x y : Scalar)
  | scale (x y : Scalar)
  | rotate (radians : Scalar)
  | transform (matrix : Transform)
  | paint (slot : PaintSlot) (source : Paint)
  | strokeWidth (width : Scalar)
  | lineCap (cap : LineCap)
  | lineJoin (join : LineJoin)
  | miterLimit (limit : UInt16)
  | font (id : String)
  | fontSize (size : Scalar)
  | textAlign (align : TextAlign)
  | textBaseline (baseline : TextBaseline)
  | draw (flags : DrawFlags) (shape : Shape)
  | drawText (text : String)
  | drawSprites (image : String) (sprites : List Sprite)
  | drawScript (target : String)
  | beginPath
  | closePath
  | fillPath
  | strokePath
  | moveTo (point : Point)
  | lineTo (point : Point)
  | arcTo (tangent stop : Point) (radius : Scalar)
  | bezierTo (control₁ control₂ stop : Point)
  | quadraticTo (control stop : Point)
  | addTriangle (a b c : Point)
  | addQuad (a b c d : Point)
  | addRect (width height : Scalar)
  | addRoundedRect (width height radius : Scalar)
  | addSector (radius radians : Scalar)
  | addCircle (radius : Scalar)
  | addEllipse (radiusX radiusY : Scalar)
  | pathArc (centre : Point) (radius start stop : Scalar) (direction : UInt32)
  | scissor (width height : Scalar)
  | clipPath (mode : ClipMode)
  deriving DecidableEq, Repr

def LineCap.code : LineCap → UInt16
  | .butt => 0
  | .round => 1
  | .square => 2

def LineJoin.code : LineJoin → UInt16
  | .bevel => 0
  | .round => 1
  | .miter => 2

def TextAlign.code : TextAlign → UInt16
  | .left => 0
  | .center => 1
  | .right => 2

def TextBaseline.code : TextBaseline → UInt16
  | .top => 0
  | .middle => 1
  | .alphabetic => 2
  | .bottom => 3

def ClipMode.code : ClipMode → UInt16
  | .intersect => 0
  | .difference => 1

def Turn.code : Turn → UInt32
  | .clockwise => 0
  | .counterClockwise => 1

def Paint.kind : Paint → PaintKind
  | .colour _ => .colour
  | .gradient (.linear ..) => .linear
  | .gradient (.radial ..) => .radial
  | .image _ => .image
  | .stream _ => .stream

namespace Record

/-- The opcode under which a record is written. -/
def opcode : Record → Opcode
  | .pushState => .pushState
  | .popState => .popState
  | .popPushState => .popPushState
  | .translate .. => .translate
  | .scale .. => .scale
  | .rotate _ => .rotate
  | .transform _ => .transform
  | .paint slot source => .paint slot source.kind
  | .strokeWidth _ => .strokeWidth
  | .lineCap _ => .lineCap
  | .lineJoin _ => .lineJoin
  | .miterLimit _ => .miterLimit
  | .font _ => .font
  | .fontSize _ => .fontSize
  | .textAlign _ => .textAlign
  | .textBaseline _ => .textBaseline
  | .draw _ shape => .draw shape.kind
  | .drawText _ => .drawText
  | .drawSprites .. => .drawSprites
  | .drawScript _ => .drawScript
  | .beginPath => .beginPath
  | .closePath => .closePath
  | .fillPath => .fillPath
  | .strokePath => .strokePath
  | .moveTo _ => .moveTo
  | .lineTo _ => .lineTo
  | .arcTo .. => .arcTo
  | .bezierTo .. => .bezierTo
  | .quadraticTo .. => .quadraticTo
  | .addTriangle .. => .addTriangle
  | .addQuad .. => .addQuad
  | .addRect .. => .addRect
  | .addRoundedRect .. => .addRoundedRect
  | .addSector .. => .addSector
  | .addCircle _ => .addCircle
  | .addEllipse .. => .addEllipse
  | .pathArc .. => .pathArc
  | .scissor .. => .scissor
  | .clipPath _ => .clipPath

/-- Scalars bit for bit. -/
def scalars (values : List Scalar) : Bytes := values.flatMap fun x => Bytes.word32 x.bits

def points (values : List Point) : Bytes := values.flatMap fun p => scalars [p.x, p.y]

/-- A text behind its length and, where there is one, a count; zeros pad it to a
multiple of four. A length past 16 bits is written as 65535. -/
def text (value : String) (count : Bytes) : Bytes :=
  let bytes := Utf8.write value
  Bytes.word16 (UInt16.ofNat (min 65535 bytes.length)) ++ count ++ bytes ++
    List.replicate (padding bytes.length) 0

def sprite (s : Sprite) : Bytes :=
  scalars [s.source.x, s.source.y, s.source.width, s.source.height, s.target.x, s.target.y,
    s.target.width, s.target.height, s.alpha]

/-- The reserved field. -/
def reserved : Bytes := Bytes.word16 0

/-- The operands of a paint record. -/
def paintOperands : Paint → Bytes
  | .colour c => reserved ++ c.toList
  | .gradient (.linear start stop startColour stopColour) =>
      reserved ++ points [start, stop] ++ startColour.toList ++ stopColour.toList
  | .gradient (.radial centre inner outer innerColour outerColour) =>
      reserved ++ points [centre] ++ scalars [inner, outer] ++ innerColour.toList ++
        outerColour.toList
  | .image id => text id []
  | .stream id => text id []

/-- The operands of a record. -/
def operands : Record → Bytes
  | .pushState => reserved
  | .popState => reserved
  | .popPushState => reserved
  | .translate x y => reserved ++ scalars [x, y]
  | .scale x y => reserved ++ scalars [x, y]
  | .rotate radians => reserved ++ scalars [radians]
  | .transform matrix => reserved ++ scalars matrix.scalars
  | .paint _ source => paintOperands source
  | .strokeWidth width => Bytes.word16 width.quarters
  | .lineCap cap => Bytes.word16 cap.code
  | .lineJoin join => Bytes.word16 join.code
  | .miterLimit limit => Bytes.word16 limit
  | .font id => text id []
  | .fontSize size => Bytes.word16 size.quarters
  | .textAlign align => Bytes.word16 align.code
  | .textBaseline baseline => Bytes.word16 baseline.code
  | .draw flags shape => Bytes.word16 flags.bits ++ scalars shape.scalars
  | .drawText value => text value []
  | .drawSprites image sprites =>
      text image (Bytes.word32 (UInt32.ofNat (min (UInt32.size - 1) sprites.length))) ++
        sprites.flatMap sprite
  | .drawScript target => text target []
  | .beginPath => reserved
  | .closePath => reserved
  | .fillPath => reserved
  | .strokePath => reserved
  | .moveTo point => reserved ++ points [point]
  | .lineTo point => reserved ++ points [point]
  | .arcTo tangent stop radius => reserved ++ points [tangent, stop] ++ scalars [radius]
  | .bezierTo control₁ control₂ stop => reserved ++ points [control₁, control₂, stop]
  | .quadraticTo control stop => reserved ++ points [control, stop]
  | .addTriangle a b c => reserved ++ points [a, b, c]
  | .addQuad a b c d => reserved ++ points [a, b, c, d]
  | .addRect width height => reserved ++ scalars [width, height]
  | .addRoundedRect width height radius => reserved ++ scalars [width, height, radius]
  | .addSector radius radians => reserved ++ scalars [radius, radians]
  | .addCircle radius => reserved ++ scalars [radius]
  | .addEllipse radiusX radiusY => reserved ++ scalars [radiusX, radiusY]
  | .pathArc centre radius start stop direction =>
      reserved ++ points [centre] ++ scalars [radius, start, stop] ++ Bytes.word32 direction
  | .scissor width height => reserved ++ scalars [width, height]
  | .clipPath mode => Bytes.word16 mode.code

/-- The bytes of a record. -/
def encode (record : Record) : Bytes := Bytes.word16 record.opcode.code ++ record.operands

/-- The instruction that a record is read back as. -/
def instruction : Record → Instruction
  | .pushState => .pushState
  | .popState => .popState
  | .popPushState => .popPushState
  | .translate x y => .translate x y
  | .scale x y => .scale x y
  | .rotate radians => .rotate radians
  | .transform matrix => .transform matrix
  | .paint slot source => .paint slot source
  | .strokeWidth width => .strokeWidth (Scalar.ofQuarters width.quarters)
  | .lineCap cap => .lineCap cap
  | .lineJoin join => .lineJoin join
  | .miterLimit limit => .miterLimit (Scalar.ofNat limit.toNat)
  | .font id => .font id
  | .fontSize size => .fontSize (Scalar.ofQuarters size.quarters)
  | .textAlign align => .textAlign align
  | .textBaseline baseline => .textBaseline baseline
  | .draw flags shape => .draw shape flags
  | .drawText text => .drawText text
  | .drawSprites image sprites => .drawSprites image sprites
  | .drawScript target => .drawScript target
  | .beginPath => .beginPath
  | .closePath => .closePath
  | .fillPath => .fillPath
  | .strokePath => .strokePath
  | .moveTo point => .moveTo point
  | .lineTo point => .lineTo point
  | .arcTo tangent stop radius => .arcTo tangent stop radius
  | .bezierTo control₁ control₂ stop => .bezierTo control₁ control₂ stop
  | .quadraticTo control stop => .quadraticTo control stop
  | .addTriangle a b c => .addShape (.triangle a b c)
  | .addQuad a b c d => .addShape (.quad a b c d)
  | .addRect width height => .addShape (.rect width height)
  | .addRoundedRect width height radius => .addShape (.roundedRect width height radius)
  | .addSector radius radians => .addShape (.sector radius radians)
  | .addCircle radius => .addShape (.circle radius)
  | .addEllipse radiusX radiusY => .addShape (.ellipse radiusX radiusY)
  | .pathArc centre radius start stop direction =>
      .pathArc centre radius start stop (Turn.ofCode direction)
  | .scissor width height => .scissor width height
  | .clipPath mode => .clipPath mode

end Record

/-- The bytes of a script. -/
def encode (records : List Record) : Bytes := records.flatMap Record.encode

end ScenePlayer
