import ScenePlayer.Proofs.Script.RoundTrip

/-!
Writing back what was read. A record keeps bytes that its instruction does not depend on:
reserved fields, padding, ill-formed texts and the direction words of arcs. A buffer is
canonical (`IsCanonical`) if these are as an author would write them. The instructions of
a canonical buffer can be written again, and that gives the same bytes (`encode_decode`).
Conversely what an author writes is canonical (`isCanonical_encode`).
-/

namespace ScenePlayer

open Grammar

/-! ### Canonical records -/

/-- The bytes are the UTF-8 of a text. -/
def Utf8.IsValid (bytes : Bytes) : Prop := (ByteArray.mk bytes.toArray).IsValidUTF8

/-- Whether the field that opens the operands has no meaning. -/
def Opcode.hasReserved : Opcode → Bool
  | .draw _ => false
  | .drawText => false
  | .drawSprites => false
  | .drawScript => false
  | .clipPath => false
  | .paint _ .image => false
  | .paint _ .stream => false
  | .strokeWidth => false
  | .lineCap => false
  | .lineJoin => false
  | .miterLimit => false
  | .font => false
  | .fontSize => false
  | .textAlign => false
  | .textBaseline => false
  | _ => true

/-- The bytes start with a well-formed text of the given length, and zeros pad it. -/
structure CanonicalText (length : Nat) (bytes : Bytes) : Prop where
  valid : Utf8.IsValid (bytes.take length)
  zeros : ∀ byte ∈ (bytes.drop length).take (padding length), byte = 0

/-- Operands of an opcode that are as an author would write them. -/
structure Opcode.Canonical (op : Opcode) (operands : Bytes) : Prop where
  reserved : op.hasReserved = true → Operands.field operands = 0
  text : op.layout = .text → CanonicalText (Operands.field operands).toNat (operands.drop 2)
  image : op.layout = .sprites → CanonicalText (Operands.field operands).toNat (operands.drop 6)
  direction : op = .pathArc → Operands.word operands 5 = 0 ∨ Operands.word operands 5 = 1

/-- A record whose operands are canonical for its opcode. -/
def CanonicalRecord (record : Bytes) : Prop :=
  match Opcode.ofCode (Bytes.front16 record) with
  | some op => op.Canonical (record.drop 2)
  | none => False

/-- The bytes are a run of records of the table, all of them canonical. -/
def IsCanonical (bytes : Bytes) : Prop :=
  ∃ instructions records, List.Forall₂ Row instructions records ∧ records.flatten = bytes ∧
    ∀ record ∈ records, CanonicalRecord record

theorem canonicalRecord_iff {code : UInt16} {op : Opcode} {operands : Bytes}
    (known : Opcode.ofCode code = some op) :
    CanonicalRecord (Bytes.word16 code ++ operands) ↔ op.Canonical operands := by
  rw [CanonicalRecord, Bytes.front16_word16, known]
  rfl

/-! ### Scalars from their counts -/

namespace Scalar

theorem quarters_ofQuarters (n : UInt16) : (ofQuarters n).quarters = n := by
  have bound := n.toNat_lt
  rw [quarters, exact_ofQuarters]
  have rounded : (n.toNat <<< 147 + 1 <<< 146) >>> 147 = n.toNat := by
    rw [Nat.shiftLeft_eq, Nat.shiftLeft_eq, Nat.shiftRight_eq_div_pow]
    omega
  simp only [rounded, Bool.false_eq_true, if_false]
  rw [Nat.min_eq_right (by omega), UInt16.ofNat_toNat]

theorem whole_ofNat (n : UInt16) : (ofNat n.toNat).whole = n.toNat := by
  rw [whole, exact_ofNat]
  simp only [Nat.shiftLeft_shiftRight]

end Scalar

theorem Turn.code_ofCode {direction : UInt32} (known : direction = 0 ∨ direction = 1) :
    (ofCode direction).code = direction := by
  rcases known with rfl | rfl <;> rfl

/-! ### Records of instructions -/

/-- The record that an author writes for an instruction; none adds a line, an arc or a
rectangle with four radii to a path. -/
def Instruction.record? : Instruction → Option Record
  | .pushState => some .pushState
  | .popState => some .popState
  | .popPushState => some .popPushState
  | .translate x y => some (.translate x y)
  | .scale x y => some (.scale x y)
  | .rotate radians => some (.rotate radians)
  | .transform matrix => some (.transform matrix)
  | .paint slot source => some (.paint slot source)
  | .strokeWidth width => some (.strokeWidth width)
  | .lineCap cap => some (.lineCap cap)
  | .lineJoin join => some (.lineJoin join)
  | .miterLimit limit => some (.miterLimit (UInt16.ofNat (min 65535 limit.whole)))
  | .font id => some (.font id)
  | .fontSize size => some (.fontSize size)
  | .textAlign align => some (.textAlign align)
  | .textBaseline baseline => some (.textBaseline baseline)
  | .draw shape flags => some (.draw flags shape)
  | .drawText text => some (.drawText text)
  | .drawSprites image sprites => some (.drawSprites image sprites)
  | .drawScript target => some (.drawScript target)
  | .beginPath => some .beginPath
  | .closePath => some .closePath
  | .fillPath => some .fillPath
  | .strokePath => some .strokePath
  | .moveTo point => some (.moveTo point)
  | .lineTo point => some (.lineTo point)
  | .arcTo tangent stop radius => some (.arcTo tangent stop radius)
  | .bezierTo control₁ control₂ stop => some (.bezierTo control₁ control₂ stop)
  | .quadraticTo control stop => some (.quadraticTo control stop)
  | .addShape (.triangle a b c) => some (.addTriangle a b c)
  | .addShape (.quad a b c d) => some (.addQuad a b c d)
  | .addShape (.rect width height) => some (.addRect width height)
  | .addShape (.roundedRect width height radius) => some (.addRoundedRect width height radius)
  | .addShape (.sector radius radians) => some (.addSector radius radians)
  | .addShape (.circle radius) => some (.addCircle radius)
  | .addShape (.ellipse radiusX radiusY) => some (.addEllipse radiusX radiusY)
  | .addShape _ => none
  | .pathArc centre radius start stop turn =>
      some (.pathArc centre radius start stop turn.code)
  | .scissor width height => some (.scissor width height)
  | .clipPath mode => some (.clipPath mode)

/-! ### Writing back -/

theorem Utf8.IsValid.exists_write {bytes : Bytes} (valid : IsValid bytes) :
    ∃ text, write text = bytes :=
  ⟨String.ofByteArray _ valid, rfl⟩

/-- A canonical text is written as it stands. -/
theorem CanonicalText.text_eq {length : UInt16} {content pad rest : Bytes}
    (canonical : CanonicalText length.toNat (content ++ (pad ++ rest)))
    (text : Padded length content pad) (count : Bytes) :
    Record.text (Utf8.read content) count =
      Bytes.word16 length ++ (count ++ (content ++ pad)) := by
  have bound := length.toNat_lt
  obtain ⟨valid, zeros⟩ := canonical
  rw [← text.content_length, List.take_left] at valid
  rw [← text.content_length, List.drop_left, text.content_length,
    show padding length.toNat = pad.length from text.pad_length.symm, List.take_left] at zeros
  have pads : pad = List.replicate (padding length.toNat) 0 :=
    List.eq_replicate_iff.2 ⟨text.pad_length, zeros⟩
  obtain ⟨value, rfl⟩ := valid.exists_write
  have full : UInt16.ofNat (min 65535 (Utf8.write value).length) = length := by
    rw [text.content_length, Nat.min_eq_right (by omega), UInt16.ofNat_toNat]
  rw [Utf8.read_write, Record.text, full, text.content_length, ← pads, List.append_assoc,
    List.append_assoc]

namespace CanonicalRecord

variable {code : UInt16} {op : Opcode} (known : Opcode.ofCode code = some op)

include known

theorem field_eq_zero {field : UInt16} {words : List UInt32}
    (canonical : CanonicalRecord (wordRecord code field words))
    (reserved : op.hasReserved = true) : field = 0 := by
  have zero := ((canonicalRecord_iff known).1 canonical).reserved reserved
  rwa [Operands.field_append] at zero

theorem text_eq {length : UInt16} {content pad : Bytes}
    (canonical : CanonicalRecord (textRecord code length content pad))
    (layout : op.layout = .text) (text : Padded length content pad) :
    Record.text (Utf8.read content) [] = Bytes.word16 length ++ (content ++ pad) := by
  have operands := ((canonicalRecord_iff known).1 canonical).text layout
  rw [Operands.field_append] at operands
  have alone : CanonicalText length.toNat (content ++ (pad ++ [])) := by rwa [List.append_nil]
  exact alone.text_eq text []

omit known in
theorem image_eq {length : UInt16} {count : UInt32} {content pad : Bytes} {sprites : List Sprite}
    (canonical : CanonicalRecord (spritesRecord 0x000B length count content pad sprites))
    (text : Padded length content pad) :
    Record.text (Utf8.read content) (Bytes.word32 count) =
      Bytes.word16 length ++ (Bytes.word32 count ++ (content ++ pad)) := by
  have known : Opcode.ofCode 0x000B = some .drawSprites := rfl
  have operands := ((canonicalRecord_iff known).1 canonical).image rfl
  rw [Operands.field_append] at operands
  have behind : CanonicalText length.toNat
      (content ++ (pad ++ (sprites.flatMap spriteWords).flatMap Bytes.word32)) := operands
  exact behind.text_eq text _

end CanonicalRecord

/-- A canonical row of the table is what an author writes for its instruction. -/
theorem Grammar.Row.exists_record {instruction : Instruction} {bytes : Bytes}
    (row : Row instruction bytes) (canonical : CanonicalRecord bytes) :
    ∃ record, instruction.record? = some record ∧ record.encode = bytes := by
  have channels (c : Colour) : c.toList = Bytes.word32 c.word := (Bytes.word32_join32 ..).symm
  cases row with
  | drawLine | drawTriangle | drawQuad | drawRect | drawRoundedRect | drawArc | drawSector
  | drawCircle | drawEllipse | drawCorneredRect | clipPath | lineCap | lineJoin | textAlign
  | textBaseline => exact ⟨_, rfl, rfl⟩
  | drawText text | drawScript text | font text | fillImage text | fillStream text
  | strokeImage text | strokeStream text =>
      have written := canonical.text_eq rfl rfl text
      refine ⟨_, rfl, ?_⟩
      simp only [Record.encode, Record.operands, Record.paintOperands, written]
      rfl
  | @drawSprites length content pad text count sprites number =>
      have written := canonical.image_eq text
      have counted : UInt32.ofNat (min (UInt32.size - 1) sprites.length) = count := by
        have bound := count.toNat_lt
        rw [number, Nat.min_eq_right (by rw [UInt32.size]; omega), UInt32.ofNat_toNat]
      refine ⟨_, rfl, ?_⟩
      rw [Record.encode, Record.operands, counted, written, Record.flatMap_sprite]
      simp only [spritesRecord, List.append_assoc]
      rfl
  | strokeWidth quarters quarter | fontSize quarters quarter =>
      rw [Scalar.eq_of_exact quarter (Scalar.exact_ofQuarters quarters)]
      refine ⟨_, rfl, ?_⟩
      rw [Record.encode, Record.operands, Scalar.quarters_ofQuarters]
      rfl
  | miterLimit value whole =>
      have bound := value.toNat_lt
      rw [Scalar.eq_of_exact whole (Scalar.exact_ofNat value)]
      refine ⟨_, rfl, ?_⟩
      rw [Scalar.whole_ofNat, Nat.min_eq_right (by omega), UInt16.ofNat_toNat]
      rfl
  | pathArc res centre radius start stop direction =>
      obtain rfl := canonical.field_eq_zero rfl rfl
      have known := ((canonicalRecord_iff rfl).1 canonical).direction rfl
      rw [Operands.word_append] at known
      have code : (Turn.ofCode direction).code = direction := Turn.code_ofCode known
      refine ⟨_, rfl, ?_⟩
      rw [Record.encode, Record.operands, ← Turn.ofCode, code]
      rfl
  | bezierTo res | quadraticTo res | addTriangle res | addQuad res =>
      obtain rfl := canonical.field_eq_zero rfl rfl
      refine ⟨_, rfl, ?_⟩
      rw [Record.encode, Record.operands, Record.points_eq]
      rfl
  | fillColour res c | strokeColour res c | fillLinear res p q c d | strokeLinear res p q c d
  | fillRadial res centre inner outer c d | strokeRadial res centre inner outer c d =>
      obtain rfl := canonical.field_eq_zero rfl rfl
      refine ⟨_, rfl, ?_⟩
      simp only [Record.encode, Record.operands, Record.paintOperands, channels]
      rfl
  | beginPath res | closePath res | fillPath res | strokePath res | moveTo res | lineTo res
  | arcTo res | addRect res | addRoundedRect res | addSector res | addCircle res | addEllipse res
  | pushState res | popState res | popPushState res | scissor res | transform res | scale res
  | rotate res | translate res =>
      obtain rfl := canonical.field_eq_zero rfl rfl
      exact ⟨_, rfl, rfl⟩

/-! ### What is written is canonical -/

/-- Whether the direction word, if there is one, is one of the two that stand for a
direction. -/
def Record.isDirected : Record → Bool
  | .pathArc _ _ _ _ direction => direction == 0 || direction == 1
  | _ => true

theorem canonicalText_write (value : String) (rest : Bytes) :
    CanonicalText (Utf8.write value).length
      (Utf8.write value ++ (List.replicate (padding (Utf8.write value).length) 0 ++ rest)) where
  valid := by
    rw [List.take_left]
    exact value.isValidUTF8
  zeros := by
    rw [List.drop_left, List.take_left' List.length_replicate]
    exact fun byte member => List.eq_of_mem_replicate member

namespace Record

variable {record : Record}

theorem toNat_field_text {value : String} (fits : (Utf8.write value).length ≤ 65535)
    (count rest : Bytes) :
    (Operands.field (text value count ++ rest)).toNat = (Utf8.write value).length := by
  rw [text, List.append_assoc, List.append_assoc, List.append_assoc, Operands.field_append,
    UInt16.toNat_ofNat']
  omega

theorem canonical_text (fits : record.Fits) (layout : record.opcode.layout = .text) :
    CanonicalText (Operands.field record.operands).toNat (record.operands.drop 2) := by
  obtain ⟨value, carried, laid⟩ : ∃ value ∈ record.texts, record.operands = text value [] := by
    cases record with
    | paint slot source =>
        cases source with
        | image id => exact ⟨id, List.mem_cons_self, rfl⟩
        | stream id => exact ⟨id, List.mem_cons_self, rfl⟩
        | colour c => cases layout
        | gradient gradient => cases gradient <;> cases layout
    | font id => exact ⟨id, List.mem_cons_self, rfl⟩
    | drawText value => exact ⟨value, List.mem_cons_self, rfl⟩
    | drawScript target => exact ⟨target, List.mem_cons_self, rfl⟩
    | _ => cases layout
  have size := toNat_field_text (fits.texts value carried) [] []
  rw [List.append_nil] at size
  rw [laid, size]
  have written := canonicalText_write value []
  rw [List.append_nil] at written
  exact written

theorem canonical_image (fits : record.Fits) (layout : record.opcode.layout = .sprites) :
    CanonicalText (Operands.field record.operands).toNat (record.operands.drop 6) := by
  have isSprites := eq_drawSprites layout
  cases record with
  | drawSprites image sprites =>
      rw [operands, toNat_field_text (fits.texts image List.mem_cons_self)]
      have written := canonicalText_write image (sprites.flatMap sprite)
      rw [← List.append_assoc] at written
      exact written
  | _ => cases isSprites

theorem canonical_reserved (reserved : record.opcode.hasReserved = true) :
    Operands.field record.operands = 0 := by
  cases record with
  | paint slot source =>
      cases source with
      | colour c => rfl
      | gradient gradient => cases gradient <;> rfl
      | image id => cases reserved
      | stream id => cases reserved
  | _ => first | rfl | cases reserved

/-- What an author writes is a canonical record. -/
theorem canonical (fits : record.Fits) (directed : record.isDirected = true) :
    CanonicalRecord record.encode := by
  refine (canonicalRecord_iff (Opcode.ofCode_code _)).2
    ⟨canonical_reserved, canonical_text fits, canonical_image fits, fun arc => ?_⟩
  cases record with
  | pathArc centre radius start stop direction =>
      have laid : (pathArc centre radius start stop direction).operands = Bytes.word16 0 ++
          [centre.x.bits, centre.y.bits, radius.bits, start.bits, stop.bits, direction].flatMap
            Bytes.word32 := rfl
      rw [laid, Operands.word_append]
      simpa [isDirected] using directed
  | _ => cases arc

end Record

theorem rows_encode {records : List Record} (fit : ∀ record ∈ records, record.Fits) :
    List.Forall₂ Row (records.map Record.instruction) (records.map Record.encode) := by
  rw [List.forall₂_map_left_iff, List.forall₂_map_right_iff, List.forall₂_same]
  exact fun record member => Record.row (fit record member)

/-- Scripts are written canonically. -/
theorem isCanonical_encode {records : List Record} (fit : ∀ record ∈ records, record.Fits)
    (directed : ∀ record ∈ records, record.isDirected = true) : IsCanonical (encode records) := by
  refine ⟨_, records.map Record.encode, rows_encode fit, List.flatMap_def.symm, ?_⟩
  rw [List.forall_mem_map]
  exact fun record member => Record.canonical (fit record member) (directed record member)

/-! ### Canonical buffers -/

theorem decode_of_rows {instructions : List Instruction} {records : List Bytes}
    (rows : List.Forall₂ Row instructions records) :
    decode records.flatten = .ok instructions :=
  decodeFrom_eq_ok.2 ⟨records, rows.imp fun _ _ row => row.isRecord, rfl⟩

/-- Canonical rows are written back from their instructions. -/
theorem encode_of_rows {instructions : List Instruction} {records : List Bytes}
    (rows : List.Forall₂ Row instructions records)
    (canonical : ∀ record ∈ records, CanonicalRecord record) :
    (instructions.mapM Instruction.record?).map encode = some records.flatten := by
  induction rows with
  | nil => rfl
  | @cons instruction record rest others row _ ih =>
      obtain ⟨first, written, back⟩ := row.exists_record (canonical record List.mem_cons_self)
      obtain ⟨later, followed, behind⟩ := Option.map_eq_some_iff.1
        (ih fun other member => canonical other (List.mem_cons_of_mem _ member))
      rw [List.mapM_cons, written, followed, List.flatten_cons, ← back, ← behind]
      rfl

/-- **Encoding undoes decoding on canonical buffers.** If a canonical buffer is decoded,
an author can write the instructions in order, each by its record, and the result is that
buffer, byte for byte. -/
theorem encode_decode {bytes : Bytes} {instructions : List Instruction}
    (decoded : decode bytes = .ok instructions) (canonical : IsCanonical bytes) :
    (instructions.mapM Instruction.record?).map encode = some bytes := by
  obtain ⟨others, records, rows, rfl, canonical⟩ := canonical
  have same : others = instructions := Except.ok.inj ((decode_of_rows rows).symm.trans decoded)
  rw [← same]
  exact encode_of_rows rows canonical

/-- An emblem: texts with and without padding, a sprite, a width of a quarter, a scalar that
is no number, flags without a meaning and arcs in both directions. -/
def emblem : List Record :=
  [.font "sérif", .paint .fill (.image "rose"), .strokeWidth ⟨0x3e800000⟩, .miterLimit 65535,
    .drawSprites "sheet" [⟨⟨0, 0, 8, 8⟩, ⟨0, 0, 4, 4⟩, 1⟩],
    .draw ⟨0x8003⟩ (.circle ⟨0x7fc0beef⟩), .pathArc ⟨0, 0⟩ 1 0 3 1, .pathArc ⟨0, 0⟩ 1 0 3 0]

theorem encode_decode_emblem :
    decode (encode emblem) = .ok (emblem.map Record.instruction) ∧
      IsCanonical (encode emblem) ∧
      ((emblem.map Record.instruction).mapM Instruction.record?).map encode =
        some (encode emblem) := by
  have fit : ∀ record ∈ emblem, record.Fits := by decide
  have directed : ∀ record ∈ emblem, record.isDirected = true := by decide
  have decoded : decode (encode emblem) = .ok (emblem.map Record.instruction) := by
    rw [encode, List.flatMap_def]
    exact decode_of_rows (rows_encode fit)
  have canonical : IsCanonical (encode emblem) := isCanonical_encode fit directed
  exact ⟨decoded, canonical, encode_decode decoded canonical⟩

end ScenePlayer
