import ScenePlayer.Proofs.Bytes.Utf8
import ScenePlayer.Proofs.Script.Acceptance

/-!
Reading back what was written. Every record whose lengths fit their fields is written
as a row of the grammar (`Record.row`), so a script of such records is decoded to one
instruction for each (`decode_encode`).
-/

namespace ScenePlayer

open Grammar

namespace Record

/-- The texts that a record carries. -/
def texts : Record → List String
  | .paint _ (.image id) => [id]
  | .paint _ (.stream id) => [id]
  | .font id => [id]
  | .drawText value => [value]
  | .drawSprites image _ => [image]
  | .drawScript target => [target]
  | _ => []

/-- The sprites that a record carries. -/
def sprites : Record → List Sprite
  | .drawSprites _ sprites => sprites
  | _ => []

/-- The length fields of a record have room for its texts and its sprites. -/
structure Fits (record : Record) : Prop where
  texts : ∀ value ∈ record.texts, (Utf8.write value).length ≤ 65535
  sprites : record.sprites.length < 2 ^ 32

instance (record : Record) : Decidable record.Fits :=
  decidable_of_iff
    ((∀ value ∈ record.texts, (Utf8.write value).length ≤ 65535) ∧
      record.sprites.length < 2 ^ 32)
    ⟨fun ⟨texts, sprites⟩ => ⟨texts, sprites⟩, fun fits => ⟨fits.texts, fits.sprites⟩⟩

/-- A text is written behind its length, with zeros as padding. -/
theorem exists_text {record : Record} (fits : record.Fits) {value : String}
    (carried : value ∈ record.texts) (count : Bytes) :
    ∃ (length : UInt16) (content pad : Bytes), Padded length content pad ∧
      text value count = Bytes.word16 length ++ (count ++ (content ++ pad)) ∧
        Utf8.read content = value := by
  have bound := fits.texts value carried
  have size : (UInt16.ofNat (min 65535 (Utf8.write value).length)).toNat =
      (Utf8.write value).length := by
    rw [UInt16.toNat_ofNat']
    omega
  refine ⟨_, Utf8.write value, List.replicate (padding (Utf8.write value).length) 0,
    ⟨size.symm, ?_⟩, ?_, Utf8.read_write value⟩
  · rw [List.length_replicate, size]
    rfl
  · rw [text, List.append_assoc, List.append_assoc]

/-- Points are written as the words of their coordinates. -/
theorem points_eq (values : List Point) :
    points values = (values.flatMap fun p => [p.x.bits, p.y.bits]).flatMap Bytes.word32 := by
  rw [points, List.flatMap_assoc]
  rfl

/-- The number of sprites is written in full. -/
theorem toNat_count {sprites : List Sprite} (fits : sprites.length < 2 ^ 32) :
    (UInt32.ofNat (min (UInt32.size - 1) sprites.length)).toNat = sprites.length := by
  rw [UInt32.toNat_ofNat', UInt32.size]
  omega

/-- Sprites are written one after the other, nine words each. -/
theorem flatMap_sprite (sprites : List Sprite) :
    sprites.flatMap sprite = (sprites.flatMap spriteWords).flatMap Bytes.word32 := by
  rw [List.flatMap_assoc]
  rfl

/-- A paint that fits is written as a row of the grammar. -/
theorem row_paint (slot : PaintSlot) {source : Paint} (fits : (paint slot source).Fits) :
    Row (.paint slot source) (paint slot source).encode := by
  have channels (c : Colour) : Bytes.word32 c.word = c.toList := Bytes.word32_join32 ..
  cases source with
  | colour c =>
      have filling := Row.fillColour 0 c
      have stroking := Row.strokeColour 0 c
      simp only [wordRecord, List.flatMap_cons, channels] at filling stroking
      cases slot with
      | fill => exact filling
      | stroke => exact stroking
  | gradient gradient =>
      cases gradient with
      | linear p q c d =>
          have filling := Row.fillLinear 0 p q c d
          have stroking := Row.strokeLinear 0 p q c d
          simp only [wordRecord, List.flatMap_cons, channels] at filling stroking
          cases slot with
          | fill => exact filling
          | stroke => exact stroking
      | radial centre inner outer c d =>
          have filling := Row.fillRadial 0 centre inner outer c d
          have stroking := Row.strokeRadial 0 centre inner outer c d
          simp only [wordRecord, List.flatMap_cons, channels] at filling stroking
          cases slot with
          | fill => exact filling
          | stroke => exact stroking
  | image id =>
      obtain ⟨length, content, pad, padded, laid, rfl⟩ := exists_text fits List.mem_cons_self []
      rw [encode, operands, paintOperands, laid]
      cases slot with
      | fill => exact .fillImage padded
      | stroke => exact .strokeImage padded
  | stream id =>
      obtain ⟨length, content, pad, padded, laid, rfl⟩ := exists_text fits List.mem_cons_self []
      rw [encode, operands, paintOperands, laid]
      cases slot with
      | fill => exact .fillStream padded
      | stroke => exact .strokeStream padded

/-- A record that fits is written as a row of the grammar. -/
theorem row {record : Record} (fits : record.Fits) : Row record.instruction record.encode := by
  cases record with
  | pushState => exact .pushState 0
  | popState => exact .popState 0
  | popPushState => exact .popPushState 0
  | translate x y => exact .translate 0 x y
  | scale x y => exact .scale 0 x y
  | rotate radians => exact .rotate 0 radians
  | transform matrix => exact .transform 0 _ _ _ _ _ _
  | paint slot source => exact row_paint slot fits
  | strokeWidth width => exact .strokeWidth width.quarters (Scalar.exact_ofQuarters _)
  | lineCap cap => exact .lineCap cap
  | lineJoin join => exact .lineJoin join
  | miterLimit limit => exact .miterLimit limit (Scalar.exact_ofNat limit)
  | font id =>
      obtain ⟨length, content, pad, padded, laid, rfl⟩ := exists_text fits List.mem_cons_self []
      rw [encode, operands, laid]
      exact .font padded
  | fontSize size => exact .fontSize size.quarters (Scalar.exact_ofQuarters _)
  | textAlign align => exact .textAlign align
  | textBaseline baseline => exact .textBaseline baseline
  | draw flags shape =>
      cases shape with
      | line p q => exact .drawLine flags p q
      | triangle a b c => exact .drawTriangle flags a b c
      | quad a b c d => exact .drawQuad flags a b c d
      | rect w h => exact .drawRect flags w h
      | roundedRect w h r => exact .drawRoundedRect flags w h r
      | corneredRect w h radii => exact .drawCorneredRect flags w h _ _ _ _
      | arc radius radians => exact .drawArc flags radius radians
      | sector radius radians => exact .drawSector flags radius radians
      | circle radius => exact .drawCircle flags radius
      | ellipse rx ry => exact .drawEllipse flags rx ry
  | drawText value =>
      obtain ⟨length, content, pad, padded, laid, rfl⟩ := exists_text fits List.mem_cons_self []
      rw [encode, operands, laid]
      exact .drawText padded
  | drawSprites image sprites =>
      have few : sprites.length < 2 ^ 32 := fits.sprites
      obtain ⟨length, content, pad, padded, laid, rfl⟩ := exists_text fits List.mem_cons_self
        (Bytes.word32 (UInt32.ofNat (min (UInt32.size - 1) sprites.length)))
      have row := Row.drawSprites padded (toNat_count few).symm
      simp only [spritesRecord, ← flatMap_sprite, ← List.append_assoc] at row
      rw [encode, operands, laid]
      simp only [← List.append_assoc]
      exact row
  | drawScript target =>
      obtain ⟨length, content, pad, padded, laid, rfl⟩ := exists_text fits List.mem_cons_self []
      rw [encode, operands, laid]
      exact .drawScript padded
  | beginPath => exact .beginPath 0
  | closePath => exact .closePath 0
  | fillPath => exact .fillPath 0
  | strokePath => exact .strokePath 0
  | moveTo point => exact .moveTo 0 point
  | lineTo point => exact .lineTo 0 point
  | arcTo tangent stop radius => exact .arcTo 0 tangent stop radius
  | bezierTo control₁ control₂ stop =>
      rw [encode, operands, points_eq]
      exact .bezierTo 0 control₁ control₂ stop
  | quadraticTo control stop =>
      rw [encode, operands, points_eq]
      exact .quadraticTo 0 control stop
  | addTriangle a b c =>
      rw [encode, operands, points_eq]
      exact .addTriangle 0 a b c
  | addQuad a b c d =>
      rw [encode, operands, points_eq]
      exact .addQuad 0 a b c d
  | addRect width height => exact .addRect 0 width height
  | addRoundedRect width height radius => exact .addRoundedRect 0 width height radius
  | addSector radius radians => exact .addSector 0 radius radians
  | addCircle radius => exact .addCircle 0 radius
  | addEllipse radiusX radiusY => exact .addEllipse 0 radiusX radiusY
  | pathArc centre radius start stop direction =>
      exact .pathArc 0 centre radius start stop direction
  | scissor width height => exact .scissor 0 width height
  | clipPath mode => exact .clipPath mode

end Record

/-- A written script is decoded to one instruction for each record, in order, with the
record's operands. A width or a size is exactly a quarter of the written count, a miter
limit exactly the written number, and an arc is counter-clockwise for the word 1 alone. -/
theorem decode_encode (records : List Record) (fit : ∀ record ∈ records, record.Fits) :
    decode (encode records) = .ok (records.map Record.instruction) ∧
      (∀ count, (Scalar.ofQuarters count).exact = .finite false (count.toNat <<< 147)) ∧
      (∀ limit : UInt16,
        (Scalar.ofNat limit.toNat).exact = .finite false (limit.toNat <<< 149)) ∧
      (∀ direction, Turn.ofCode direction = .counterClockwise ↔ direction = 1) := by
  refine ⟨?_, Scalar.exact_ofQuarters, Scalar.exact_ofNat, fun direction => ?_⟩
  · have cut :
        List.Forall₂ IsRecord (records.map Record.instruction) (records.map Record.encode) := by
      rw [List.forall₂_map_left_iff, List.forall₂_map_right_iff, List.forall₂_same]
      exact fun record member => (Record.row (fit record member)).isRecord
    exact decodeFrom_eq_ok.2 ⟨records.map Record.encode, cut, List.flatMap_def.symm⟩
  · unfold Turn.ofCode
    split <;> simp [*]

/-- A badge: a text, two sprites, a stroke and an arc, with a scalar that is no number. -/
def badge : List Record :=
  [.font "sérif", .drawText "", .strokeWidth ⟨0x3fc00000⟩, .miterLimit 10,
    .drawSprites "sheet" [⟨⟨0, 0, 8, 8⟩, ⟨0, 0, 4, 4⟩, 1⟩, ⟨⟨8, 0, 8, 8⟩, ⟨4, 0, 4, 4⟩, 1⟩],
    .draw ⟨0x8003⟩ (.circle ⟨0x7fc0beef⟩), .pathArc ⟨0, 0⟩ 1 0 3 1, .pathArc ⟨0, 0⟩ 1 0 3 2]

theorem decode_encode_badge :
    (∀ record ∈ badge, record.Fits) ∧ decode (encode badge) = .ok
      [.font "sérif", .drawText "", .strokeWidth ⟨0x3fc00000⟩, .miterLimit 10,
        .drawSprites "sheet" [⟨⟨0, 0, 8, 8⟩, ⟨0, 0, 4, 4⟩, 1⟩, ⟨⟨8, 0, 8, 8⟩, ⟨4, 0, 4, 4⟩, 1⟩],
        .draw (.circle ⟨0x7fc0beef⟩) ⟨0x8003⟩, .pathArc ⟨0, 0⟩ 1 0 3 .counterClockwise,
        .pathArc ⟨0, 0⟩ 1 0 3 .clockwise] := by
  have fit : ∀ record ∈ badge, record.Fits := by decide
  exact ⟨fit, (decode_encode badge fit).1⟩

end ScenePlayer
