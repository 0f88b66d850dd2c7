import ScenePlayer.Script.Instruction

/-!
The opcodes of the wire format: the number that opens a record, the name used
for it in messages, and the layout of the operands that follow it.

Each opcode has its own number (`ofCode_code`, `code_ofCode`).
-/

namespace ScenePlayer

/-- What a paint record describes. -/
inductive PaintKind where
  | colour | linear | radial | image | stream
  deriving DecidableEq, Repr

inductive Opcode where
  | draw (kind : ShapeKind)
  | drawText
  | drawSprites
  | drawScript
  | beginPath
  | closePath
  | fillPath
  | strokePath
  | moveTo
  | lineTo
  | arcTo
  | bezierTo
  | quadraticTo
  | addTriangle
  | addQuad
  | addRect
  | addRoundedRect
  | addSector
  | addCircle
  | addEllipse
  | pathArc
  | pushState
  | popState
  | popPushState
  | scissor
  | clipPath
  | transform
  | scale
  | rotate
  | translate
  | paint (slot : PaintSlot) (kind : PaintKind)
  | strokeWidth
  | lineCap
  | lineJoin
  | miterLimit
  | font
  | fontSize
  | textAlign
  | textBaseline
  deriving DecidableEq, Repr

namespace Opcode

/-- The number of an opcode on the wire. -/
def code : Opcode → UInt16
  | .draw .line => 0x0001
  | .draw .triangle => 0x0002
  | .draw .quad => 0x0003
  | .draw .rect => 0x0004
  | .draw .roundedRect => 0x0005
  | .draw .arc => 0x0006
  | .draw .sector => 0x0007
  | .draw .circle => 0x0008
  | .draw .ellipse => 0x0009
  | .drawText => 0x000A
  | .drawSprites => 0x000B
  | .draw .corneredRect => 0x000C
  | .drawScript => 0x000F
  | .beginPath => 0x0020
  | .closePath => 0x0021
  | .fillPath => 0x0022
  | .strokePath => 0x0023
  | .moveTo => 0x0026
  | .lineTo => 0x0027
  | .arcTo => 0x0028
  | .bezierTo => 0x0029
  | .quadraticTo => 0x002A
  | .addTriangle => 0x002B
  | .addQuad => 0x002C
  | .addRect => 0x002D
  | .addRoundedRect => 0x002E
  | .addSector => 0x002F
  | .addCircle => 0x0030
  | .addEllipse => 0x0031
  | .pathArc => 0x0032
  | .pushState => 0x0040
  | .popState => 0x0041
  | .popPushState => 0x0042
  | .scissor => 0x0044
  | .clipPath => 0x0045
  | .transform => 0x0050
  | .scale => 0x0051
  | .rotate => 0x0052
  | .translate => 0x0053
  | .paint .fill .colour => 0x0060
  | .paint .fill .linear => 0x0061
  | .paint .fill .radial => 0x0062
  | .paint .fill .image => 0x0063
  | .paint .fill .stream => 0x0064
  | .strokeWidth => 0x0070
  | .paint .stroke .colour => 0x0071
  | .paint .stroke .linear => 0x0072
  | .paint .stroke .radial => 0x0073
  | .paint .stroke .image => 0x0074
  | .paint .stroke .stream => 0x0075
  | .lineCap => 0x0080
  | .lineJoin => 0x0081
  | .miterLimit => 0x0082
  | .font => 0x0090
  | .fontSize => 0x0091
  | .textAlign => 0x0092
  | .textBaseline => 0x0093

/-- All opcodes in the order of their numbers. -/
def all : List Opcode :=
  [.draw .line, .draw .triangle, .draw .quad, .draw .rect, .draw .roundedRect, .draw .arc,
    .draw .sector, .draw .circle, .draw .ellipse, .drawText, .drawSprites, .draw .corneredRect,
    .drawScript, .beginPath, .closePath, .fillPath, .strokePath, .moveTo, .lineTo, .arcTo,
    .bezierTo, .quadraticTo, .addTriangle, .addQuad, .addRect, .addRoundedRect, .addSector,
    .addCircle, .addEllipse, .pathArc, .pushState, .popState, .popPushState, .scissor, .clipPath,
    .transform, .scale, .rotate, .translate, .paint .fill .colour, .paint .fill .linear,
    .paint .fill .radial, .paint .fill .image, .paint .fill .stream, .strokeWidth,
    .paint .stroke .colour, .paint .stroke .linear, .paint .stroke .radial,
    .paint .stroke .image, .paint .stroke .stream, .lineCap, .lineJoin, .miterLimit, .font,
    .fontSize, .textAlign, .textBaseline]

/-- The opcode with a given number. -/
def ofCode (code : UInt16) : Option Opcode := all.find? fun op => op.code = code

theorem ofCode_code (op : Opcode) : ofCode op.code = some op := by
  cases op with
  | draw kind => cases kind <;> rfl
  | paint slot kind => cases slot <;> cases kind <;> rfl
  | _ => rfl

theorem code_ofCode {code : UInt16} {op : Opcode} (known : ofCode code = some op) :
    op.code = code := by
  simpa using List.find?_some known

/-- The name of an opcode in messages. -/
def name : Opcode → String
  | .draw .line => "draw_line"
  | .draw .triangle => "draw_triangle"
  | .draw .quad => "draw_quad"
  | .draw .rect => "draw_rect"
  | .draw .roundedRect => "draw_rrect"
  | .draw .corneredRect => "draw_rrectv"
  | .draw .arc => "draw_arc"
  | .draw .sector => "draw_sector"
  | .draw .circle => "draw_circle"
  | .draw .ellipse => "draw_ellipse"
  | .drawText => "draw_text"
  | .drawSprites => "draw_sprites"
  | .drawScript => "draw_script"
  | .beginPath => "begin_path"
  | .closePath => "close_path"
  | .fillPath => "fill_path"
  | .strokePath => "stroke_path"
  | .moveTo => "move_to"
  | .lineTo => "line_to"
  | .arcTo => "arc_to"
  | .bezierTo => "bezier_to"
  | .quadraticTo => "quadratic_to"
  | .addTriangle => "triangle"
  | .addQuad => "quad"
  | .addRect => "rect"
  | .addRoundedRect => "rrect"
  | .addSector => "sector"
  | .addCircle => "circle"
  | .addEllipse => "ellipse"
  | .pathArc => "arc"
  | .pushState => "push_state"
  | .popState => "pop_state"
  | .popPushState => "pop_push_state"
  | .scissor => "scissor"
  | .clipPath => "clip_path"
  | .transform => "transform"
  | .scale => "scale"
  | .rotate => "rotate"
  | .translate => "translate"
  | .paint .fill .colour => "fill_color"
  | .paint .fill .linear => "fill_linear"
  | .paint .fill .radial => "fill_radial"
  | .paint .fill .image => "fill_image"
  | .paint .fill .stream => "fill_stream"
  | .paint .stroke .colour => "stroke_color"
  | .paint .stroke .linear => "stroke_linear"
  | .paint .stroke .radial => "stroke_radial"
  | .paint .stroke .image => "stroke_image"
  | .paint .stroke .stream => "stroke_stream"
  | .strokeWidth => "stroke_width"
  | .lineCap => "cap"
  | .lineJoin => "join"
  | .miterLimit => "miter_limit"
  | .font => "font"
  | .fontSize => "font_size"
  | .textAlign => "text_align"
  | .textBaseline => "text_base"

end Opcode

/-- The layouts of operands. Every layout opens with a two-byte field: flags, a
reserved field, an enumerated value, a count of quarter units or the length of
a text. -/
inductive Layout where
  /-- The field, then `count` four-byte words. -/
  | words (count : Nat)
  /-- The field holds the length of a text that follows, padded. -/
  | text
  /-- The field holds the length of an identifier, a word the number of sprites;
  then come the identifier, padded, and nine words for each sprite. -/
  | sprites
  deriving DecidableEq, Repr

/-- How many words the scalars of a shape take. -/
def ShapeKind.words : ShapeKind → Nat
  | .line => 4
  | .triangle => 6
  | .quad => 8
  | .rect => 2
  | .roundedRect => 3
  | .corneredRect => 6
  | .arc => 2
  | .sector => 2
  | .circle => 1
  | .ellipse => 2

/-- The layout of the operands of an opcode. -/
def Opcode.layout : Opcode → Layout
  | .draw kind => .words kind.words
  | .drawText => .text
  | .drawSprites => .sprites
  | .drawScript => .text
  | .beginPath => .words 0
  | .closePath => .words 0
  | .fillPath => .words 0
  | .strokePath => .words 0
  | .moveTo => .words 2
  | .lineTo => .words 2
  | .arcTo => .words 5
  | .bezierTo => .words 6
  | .quadraticTo => .words 4
  | .addTriangle => .words 6
  | .addQuad => .words 8
  | .addRect => .words 2
  | .addRoundedRect => .words 3
  | .addSector => .words 2
  | .addCircle => .words 1
  | .addEllipse => .words 2
  | .pathArc => .words 6
  | .pushState => .words 0
  | .popState => .words 0
  | .popPushState => .words 0
  | .scissor => .words 2
  | .clipPath => .words 0
  | .transform => .words 6
  | .scale => .words 2
  | .rotate => .words 1
  | .translate => .words 2
  | .paint _ .colour => .words 1
  | .paint _ .linear => .words 6
  | .paint _ .radial => .words 6
  | .paint _ .image => .text
  | .paint _ .stream => .text
  | .strokeWidth => .words 0
  | .lineCap => .words 0
  | .lineJoin => .words 0
  | .miterLimit => .words 0
  | .font => .text
  | .fontSize => .words 0
  | .textAlign => .words 0
  | .textBaseline => .words 0

end ScenePlayer
