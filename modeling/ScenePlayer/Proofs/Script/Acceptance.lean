import ScenePlayer.Proofs.Scalar.Representable
import ScenePlayer.Proofs.Script.Operands

/-!
The decoder accepts exactly the scripts of the grammar (`decode_accepts_scripts`).

Each row is read as its instruction (`Grammar.Row.isRecord`). Conversely whole operands
with a meaning are those of some row (`Grammar.exists_row`), and since that row is read
too, its instruction is the one decoded (`Grammar.row_of_isRecord`).
-/

namespace ScenePlayer

namespace Grammar

/-! ### Records of each layout -/

/-- A record is read if its operands fill their extent and have a meaning. -/
theorem isRecord_of_operands {code : UInt16} {op : Opcode} {operands : Bytes}
    {instruction : Instruction} (known : Opcode.ofCode code = some op)
    (announcement : op.layout.announced operands = operands.length)
    (meaning : op.read operands = .ok instruction) :
    IsRecord instruction (Bytes.word16 code ++ operands) := by
  refine readRecord_eq_ok.2 ⟨op, operands, operands.length, ?_, ?_, ?_, ?_⟩
  · rw [Opcode.code_ofCode known]
  · exact Layout.extent_eq_ok.2 ⟨announcement, Nat.le_refl _⟩
  · rwa [List.take_length]
  · rw [List.length_append, Bytes.length_word16]

theorem isRecord_wordRecord {code field : UInt16} {op : Opcode} {words : List UInt32}
    {instruction : Instruction} (known : Opcode.ofCode code = some op)
    (layout : op.layout = .words words.length)
    (meaning : op.read (Bytes.word16 field ++ words.flatMap Bytes.word32) = .ok instruction) :
    IsRecord instruction (wordRecord code field words) := by
  refine isRecord_of_operands known ?_ meaning
  rw [layout, Layout.announced, List.length_append, Bytes.length_word16,
    Bytes.length_flatMap_word32]

theorem isRecord_textRecord {code length : UInt16} {op : Opcode} {content pad : Bytes}
    (text : Padded length content pad) {instruction : Instruction}
    (known : Opcode.ofCode code = some op) (layout : op.layout = .text)
    (meaning : op.read (Bytes.word16 length ++ (content ++ pad)) = .ok instruction) :
    IsRecord instruction (textRecord code length content pad) := by
  refine isRecord_of_operands known ?_ meaning
  rw [layout, Layout.announced, Bytes.front16_word16, List.length_append, Bytes.length_word16,
    text.length_append]

theorem isRecord_spritesRecord {length : UInt16} {count : UInt32} {content pad : Bytes}
    (text : Padded length content pad) {sprites : List Sprite}
    (number : sprites.length = count.toNat) :
    IsRecord (.drawSprites (Utf8.read content) sprites)
      (spritesRecord 0x000B length count content pad sprites) := by
  have known : Opcode.ofCode 0x000B = some .drawSprites := rfl
  have behind : ∀ rest : Bytes, (Bytes.word16 length ++ rest).drop 2 = rest := fun _ => rfl
  refine isRecord_of_operands known ?_ ?_
  · simp only [Opcode.layout, Layout.announced, padded, padding, Bytes.front16_word16, behind,
      Bytes.front32_word32, List.length_append, text.content_length, text.pad_length,
      Bytes.length_word16, Bytes.length_word32, Bytes.length_flatMap_word32,
      length_flatMap_spriteWords, number]
    omega
  · simp only [Opcode.read, Operands.spriteImage_append text.content_length,
      sprites_append text]

/-- Every row of the table is read as its instruction. -/
theorem Row.isRecord {instruction : Instruction} {bytes : Bytes} (row : Row instruction bytes) :
    IsRecord instruction bytes := by
  -- Rows of one layout are read alike: words, texts, sprites, enumerated fields, counts.
  cases row with
  | drawLine | drawTriangle | drawQuad | drawRect | drawRoundedRect | drawArc | drawSector
  | drawCircle | drawEllipse | drawCorneredRect | beginPath | closePath | fillPath | strokePath
  | moveTo | lineTo | arcTo | bezierTo | quadraticTo | addTriangle | addQuad | addRect
  | addRoundedRect | addSector | addCircle | addEllipse | pathArc | pushState | popState
  | popPushState | scissor | transform | scale | rotate | translate | fillColour | fillLinear
  | fillRadial | strokeColour | strokeLinear | strokeRadial =>
      refine isRecord_wordRecord rfl rfl ?_
      simp only [Opcode.read, Shape.ofScalars, Operands.paint, Operands.point, Operands.scalar,
        Operands.colour, Operands.field_append, Operands.word_append, List.getD_cons_zero,
        List.getD_cons_succ, Colour.ofWord_word, Turn.ofCode]
  | drawText text | drawScript text | fillImage text | fillStream text | strokeImage text
  | strokeStream text | font text =>
      refine isRecord_textRecord text rfl rfl ?_
      simp only [Opcode.read, Operands.paint, Operands.text_append text.content_length]
  | drawSprites text number => exact isRecord_spritesRecord text number
  | clipPath choice | lineCap choice | lineJoin choice | textAlign choice | textBaseline choice =>
      cases choice <;> exact isRecord_wordRecord rfl rfl rfl
  | strokeWidth quarters quarter | fontSize quarters quarter =>
      rw [Scalar.eq_of_exact quarter (Scalar.exact_ofQuarters quarters)]
      refine isRecord_wordRecord rfl rfl ?_
      simp only [Opcode.read, Operands.field_append]
  | miterLimit value whole =>
      rw [Scalar.eq_of_exact whole (Scalar.exact_ofNat value)]
      refine isRecord_wordRecord rfl rfl ?_
      simp only [Opcode.read, Operands.field_append]

/-! ### Rows for whole operands -/

section Words

variable {word : Nat → UInt32} {field : UInt16}

/-- Word `i` as a scalar. -/
def scalarAt (word : Nat → UInt32) (i : Nat) : Scalar := ⟨word i⟩

/-- Words `i` and `i + 1` as a point. -/
def pointAt (word : Nat → UInt32) (i : Nat) : Point := ⟨scalarAt word i, scalarAt word (i + 1)⟩

theorem exists_row_of_draw (kind : ShapeKind) :
    ∃ i, Row i (wordRecord (Opcode.draw kind).code field ((List.range kind.words).map word)) := by
  let s := scalarAt word
  let p := pointAt word
  cases kind with
  | line => exact ⟨_, .drawLine ⟨field⟩ (p 0) (p 2)⟩
  | triangle => exact ⟨_, .drawTriangle ⟨field⟩ (p 0) (p 2) (p 4)⟩
  | quad => exact ⟨_, .drawQuad ⟨field⟩ (p 0) (p 2) (p 4) (p 6)⟩
  | rect => exact ⟨_, .drawRect ⟨field⟩ (s 0) (s 1)⟩
  | roundedRect => exact ⟨_, .drawRoundedRect ⟨field⟩ (s 0) (s 1) (s 2)⟩
  | corneredRect => exact ⟨_, .drawCorneredRect ⟨field⟩ (s 0) (s 1) (s 2) (s 3) (s 4) (s 5)⟩
  | arc => exact ⟨_, .drawArc ⟨field⟩ (s 0) (s 1)⟩
  | sector => exact ⟨_, .drawSector ⟨field⟩ (s 0) (s 1)⟩
  | circle => exact ⟨_, .drawCircle ⟨field⟩ (s 0)⟩
  | ellipse => exact ⟨_, .drawEllipse ⟨field⟩ (s 0) (s 1)⟩

theorem exists_row_of_paint (slot : PaintSlot) {kind : PaintKind} {count : Nat}
    (layout : (Opcode.paint slot kind).layout = .words count) :
    ∃ i, Row i (wordRecord (Opcode.paint slot kind).code field ((List.range count).map word)) := by
  -- The rows hold the words of colours, and every word is that of a colour.
  obtain ⟨c, rfl⟩ : ∃ c : Nat → Colour, word = fun i => (c i).word :=
    ⟨fun i => Colour.ofWord (word i), funext fun i => (Colour.word_ofWord (word i)).symm⟩
  let s := scalarAt fun i => (c i).word
  let p := pointAt fun i => (c i).word
  cases kind with
  | colour =>
      cases layout
      cases slot with
      | fill => exact ⟨_, .fillColour field (c 0)⟩
      | stroke => exact ⟨_, .strokeColour field (c 0)⟩
  | linear =>
      cases layout
      cases slot with
      | fill => exact ⟨_, .fillLinear field (p 0) (p 2) (c 4) (c 5)⟩
      | stroke => exact ⟨_, .strokeLinear field (p 0) (p 2) (c 4) (c 5)⟩
  | radial =>
      cases layout
      cases slot with
      | fill => exact ⟨_, .fillRadial field (p 0) (s 2) (s 3) (c 4) (c 5)⟩
      | stroke => exact ⟨_, .strokeRadial field (p 0) (s 2) (s 3) (c 4) (c 5)⟩
  | image | stream => cases layout

/-- Words whose field has a meaning, where it is enumerated, are those of some row. -/
theorem exists_row_of_words {op : Opcode} {count : Nat} (layout : op.layout = .words count)
    {instruction : Instruction}
    (meaning : op.read (Bytes.word16 field ++ ((List.range count).map word).flatMap Bytes.word32) =
      .ok instruction) :
    ∃ i, Row i (wordRecord op.code field ((List.range count).map word)) := by
  let s := scalarAt word
  let p := pointAt word
  -- In each case the layout fixes the number of words.
  cases op with
  | draw kind =>
      cases layout
      exact exists_row_of_draw kind
  | paint slot kind => exact exists_row_of_paint slot layout
  | clipPath =>
      obtain ⟨mode, rfl⟩ := Operands.exists_code ClipMode.code_ofCode meaning
      cases layout
      exact ⟨_, .clipPath mode⟩
  | lineCap =>
      obtain ⟨cap, rfl⟩ := Operands.exists_code LineCap.code_ofCode meaning
      cases layout
      exact ⟨_, .lineCap cap⟩
  | lineJoin =>
      obtain ⟨join, rfl⟩ := Operands.exists_code LineJoin.code_ofCode meaning
      cases layout
      exact ⟨_, .lineJoin join⟩
  | textAlign =>
      obtain ⟨align, rfl⟩ := Operands.exists_code TextAlign.code_ofCode meaning
      cases layout
      exact ⟨_, .textAlign align⟩
  | textBaseline =>
      obtain ⟨baseline, rfl⟩ := Operands.exists_code TextBaseline.code_ofCode meaning
      cases layout
      exact ⟨_, .textBaseline baseline⟩
  | strokeWidth => cases layout; exact ⟨_, .strokeWidth field (Scalar.exact_ofQuarters field)⟩
  | fontSize => cases layout; exact ⟨_, .fontSize field (Scalar.exact_ofQuarters field)⟩
  | miterLimit => cases layout; exact ⟨_, .miterLimit field (Scalar.exact_ofNat field)⟩
  | beginPath => cases layout; exact ⟨_, .beginPath field⟩
  | closePath => cases layout; exact ⟨_, .closePath field⟩
  | fillPath => cases layout; exact ⟨_, .fillPath field⟩
  | strokePath => cases layout; exact ⟨_, .strokePath field⟩
  | moveTo => cases layout; exact ⟨_, .moveTo field (p 0)⟩
  | lineTo => cases layout; exact ⟨_, .lineTo field (p 0)⟩
  | arcTo => cases layout; exact ⟨_, .arcTo field (p 0) (p 2) (s 4)⟩
  | bezierTo => cases layout; exact ⟨_, .bezierTo field (p 0) (p 2) (p 4)⟩
  | quadraticTo => cases layout; exact ⟨_, .quadraticTo field (p 0) (p 2)⟩
  | addTriangle => cases layout; exact ⟨_, .addTriangle field (p 0) (p 2) (p 4)⟩
  | addQuad => cases layout; exact ⟨_, .addQuad field (p 0) (p 2) (p 4) (p 6)⟩
  | addRect => cases layout; exact ⟨_, .addRect field (s 0) (s 1)⟩
  | addRoundedRect => cases layout; exact ⟨_, .addRoundedRect field (s 0) (s 1) (s 2)⟩
  | addSector => cases layout; exact ⟨_, .addSector field (s 0) (s 1)⟩
  | addCircle => cases layout; exact ⟨_, .addCircle field (s 0)⟩
  | addEllipse => cases layout; exact ⟨_, .addEllipse field (s 0) (s 1)⟩
  | pathArc => cases layout; exact ⟨_, .pathArc field (p 0) (s 2) (s 3) (s 4) (word 5)⟩
  | pushState => cases layout; exact ⟨_, .pushState field⟩
  | popState => cases layout; exact ⟨_, .popState field⟩
  | popPushState => cases layout; exact ⟨_, .popPushState field⟩
  | scissor => cases layout; exact ⟨_, .scissor field (s 0) (s 1)⟩
  | transform => cases layout; exact ⟨_, .transform field (s 0) (s 1) (s 2) (s 3) (s 4) (s 5)⟩
  | scale => cases layout; exact ⟨_, .scale field (s 0) (s 1)⟩
  | rotate => cases layout; exact ⟨_, .rotate field (s 0)⟩
  | translate => cases layout; exact ⟨_, .translate field (s 0) (s 1)⟩
  | drawText | drawSprites | drawScript | font => cases layout

end Words

theorem exists_row_of_text {op : Opcode} (layout : op.layout = .text) {length : UInt16}
    {content pad : Bytes} (text : Padded length content pad) :
    ∃ i, Row i (textRecord op.code length content pad) := by
  cases op with
  | drawText => exact ⟨_, .drawText text⟩
  | drawScript => exact ⟨_, .drawScript text⟩
  | font => exact ⟨_, .font text⟩
  | paint slot kind =>
      cases kind with
      | image =>
          cases slot with
          | fill => exact ⟨_, .fillImage text⟩
          | stroke => exact ⟨_, .strokeImage text⟩
      | stream =>
          cases slot with
          | fill => exact ⟨_, .fillStream text⟩
          | stroke => exact ⟨_, .strokeStream text⟩
      | colour | linear | radial => cases layout
  | _ => cases layout

theorem eq_drawSprites {op : Opcode} (layout : op.layout = .sprites) : op = .drawSprites := by
  cases op with
  | drawSprites => rfl
  | paint slot kind => cases kind <;> cases layout
  | _ => cases layout

/-- Whole operands with a meaning are those of some row. -/
theorem exists_row {op : Opcode} {operands : Bytes} {instruction : Instruction}
    (announcement : op.layout.announced operands = operands.length)
    (meaning : op.read operands = .ok instruction) :
    ∃ i, Row i (Bytes.word16 op.code ++ operands) := by
  cases layout : op.layout with
  | words count =>
      rw [layout] at announcement
      obtain ⟨field, word, rfl⟩ := exists_words announcement
      exact exists_row_of_words layout meaning
  | text =>
      rw [layout] at announcement
      obtain ⟨length, content, pad, text, rfl⟩ := exists_text announcement
      exact exists_row_of_text layout text
  | sprites =>
      obtain rfl := eq_drawSprites layout
      obtain ⟨length, count, content, pad, sprites, text, number, cut⟩ :=
        exists_sprites announcement
      have row := Row.drawSprites text number
      rw [← cut] at row
      exact ⟨_, row⟩

/-- What is read as one record is a row of the table. -/
theorem row_of_isRecord {instruction : Instruction} {bytes : Bytes}
    (read : IsRecord instruction bytes) : Row instruction bytes := by
  obtain ⟨op, operands, extent, rfl, computed, meaning, size⟩ := readRecord_eq_ok.1 read
  obtain rfl : extent = operands.length := by
    rw [List.length_append, Bytes.length_word16] at size
    omega
  rw [List.take_length] at meaning
  obtain ⟨i, row⟩ := exists_row (Layout.extent_eq_ok.1 computed).1 meaning
  -- Both the row and the record say what the same bytes are read as.
  have same : i = instruction := by
    have again := row.isRecord.symm.trans read
    cases again
    rfl
  rwa [← same]

theorem isRecord_iff_row {instruction : Instruction} {bytes : Bytes} :
    IsRecord instruction bytes ↔ Row instruction bytes :=
  ⟨row_of_isRecord, Row.isRecord⟩

end Grammar

open Grammar

/-- The decoder accepts exactly the scripts of the grammar, with the instructions they
stand for; every other buffer is rejected with an error. -/
theorem decode_accepts_scripts (bytes : Bytes) :
    (∀ instructions, decode bytes = .ok instructions ↔ IsScript instructions bytes) ∧
      ((∀ instructions, ¬ IsScript instructions bytes) → ∃ error, decode bytes = .error error) := by
  have accepts : ∀ instructions, decode bytes = .ok instructions ↔ IsScript instructions bytes := by
    intro instructions
    have rows : IsRecord = Row := funext₂ fun _ _ => propext isRecord_iff_row
    rw [decode, decodeFrom_eq_ok, rows, IsScript]
  refine ⟨accepts, fun none => ?_⟩
  cases result : decode bytes with
  | ok instructions => exact absurd ((accepts instructions).1 result) (none instructions)
  | error error => exact ⟨error, rfl⟩

end ScenePlayer
