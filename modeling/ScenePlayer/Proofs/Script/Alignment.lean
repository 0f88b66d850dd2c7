import ScenePlayer.Proofs.Script.Cuts

/-!
What the bytes of a script pay for. Each record is made up of whole four-byte words, and has four
bytes for its instruction and 36 for each of its sprites (`Grammar.Row.pays`). So has a run of
records (`Grammar.pays_flatten`). A count that promises more sprites than there are bytes makes its
record a truncated one, and a script only yields what stands in front of that
(`decode_yields_what_bytes_pay`).
-/

namespace ScenePlayer

/-- The number of sprites that an instruction draws. -/
def Instruction.spriteCount : Instruction → Nat
  | .drawSprites _ sprites => sprites.length
  | _ => 0

/-- So many bytes are whole words, and pay for each instruction with four and for each of its
sprites with 36. -/
structure Pays (length : Nat) (instructions : List Instruction) : Prop where
  aligned : length % 4 = 0
  enough : 4 * instructions.length + 36 * (instructions.map Instruction.spriteCount).sum ≤ length

theorem pays_zero : Pays 0 [] := ⟨rfl, Nat.le_refl 0⟩

theorem Pays.append {m n : Nat} {front behind : List Instruction} (first : Pays m front)
    (second : Pays n behind) : Pays (m + n) (front ++ behind) := by
  have aligned := first.aligned
  have enough := first.enough
  have alignedBehind := second.aligned
  have enoughBehind := second.enough
  refine ⟨by omega, ?_⟩
  rw [List.length_append, List.map_append, List.sum_append]
  omega

namespace Grammar

/-! ### The lengths of records -/

theorem length_wordRecord (code field : UInt16) (words : List UInt32) :
    (wordRecord code field words).length = 4 + 4 * words.length := by
  simp only [wordRecord, List.length_append, Bytes.length_word16, Bytes.length_flatMap_word32]
  omega

theorem length_textRecord {length : UInt16} {content pad : Bytes} (text : Padded length content pad)
    (code : UInt16) : (textRecord code length content pad).length = 4 + padded length.toNat := by
  rw [textRecord, List.length_append, List.length_append, text.length_append, Bytes.length_word16,
    Bytes.length_word16]
  omega

theorem length_spritesRecord {length : UInt16} {content pad : Bytes}
    (text : Padded length content pad) (code : UInt16) (count : UInt32) (sprites : List Sprite) :
    (spritesRecord code length count content pad sprites).length =
      8 + padded length.toNat + 36 * sprites.length := by
  have content_pad := text.length_append
  rw [List.length_append] at content_pad
  simp only [spritesRecord, List.length_append, Bytes.length_word16, Bytes.length_word32,
    Bytes.length_flatMap_word32, length_flatMap_spriteWords]
  omega

/-! ### What records pay for -/

theorem pays_wordRecord (code field : UInt16) (words : List UInt32) {instruction : Instruction}
    (plain : instruction.spriteCount = 0) :
    Pays (wordRecord code field words).length [instruction] := by
  rw [length_wordRecord]
  refine ⟨by omega, ?_⟩
  rw [List.map_singleton, List.sum_singleton, plain, List.length_singleton]
  omega

theorem pays_textRecord {length : UInt16} {content pad : Bytes} (text : Padded length content pad)
    (code : UInt16) {instruction : Instruction} (plain : instruction.spriteCount = 0) :
    Pays (textRecord code length content pad).length [instruction] := by
  have aligned := padded_mod_four length.toNat
  rw [length_textRecord text]
  refine ⟨by omega, ?_⟩
  rw [List.map_singleton, List.sum_singleton, plain, List.length_singleton]
  omega

theorem pays_spritesRecord {length : UInt16} {content pad : Bytes}
    (text : Padded length content pad) (code : UInt16) (count : UInt32) (image : String)
    (sprites : List Sprite) :
    Pays (spritesRecord code length count content pad sprites).length
      [.drawSprites image sprites] := by
  have aligned := padded_mod_four length.toNat
  rw [length_spritesRecord text]
  refine ⟨by omega, ?_⟩
  rw [List.map_singleton, List.sum_singleton, List.length_singleton, Instruction.spriteCount]
  omega

/-- Every record of the table pays for its instruction. -/
theorem Row.pays {instruction : Instruction} {record : Bytes} (row : Row instruction record) :
    Pays record.length [instruction] := by
  cases row with
  | drawSprites text => exact pays_spritesRecord text _ _ _ _
  | drawText text | drawScript text | font text | fillImage text | fillStream text
  | strokeImage text | strokeStream text => exact pays_textRecord text _ rfl
  | _ => exact pays_wordRecord _ _ _ rfl

/-- A run of records pays for its instructions. -/
theorem pays_flatten {instructions : List Instruction} {records : List Bytes}
    (run : List.Forall₂ Row instructions records) : Pays records.flatten.length instructions := by
  induction run with
  | nil => exact pays_zero
  | cons row _ ih =>
      rw [List.flatten_cons, List.length_append]
      exact row.pays.append ih

end Grammar

/-- The bytes of a script that is read pay for all of it. -/
theorem pays_of_decode {bytes : Bytes} {instructions : List Instruction}
    (decoded : decode bytes = .ok instructions) : Pays bytes.length instructions := by
  obtain ⟨records, run, rfl⟩ := decodeFrom_eq_ok.1 decoded
  exact Grammar.pays_flatten (run.imp fun _ _ => Grammar.row_of_isRecord)

/-- **A script yields no more than its bytes pay for.** A buffer that is accepted is made up of
whole four-byte words, four bytes for each instruction and 36 for each sprite in them. The offset
at which a buffer is rejected is a multiple of four as well, and what was read in front of it is
paid for by the bytes in front of it, whatever the record at fault announces. -/
theorem decode_yields_what_bytes_pay (bytes : Bytes) :
    (∀ instructions, decode bytes = .ok instructions → Pays bytes.length instructions) ∧
      ∀ error, decode bytes = .error error →
        error.offset % 4 = 0 ∧ error.offset < bytes.length ∧
          ∃ instructions, decode (bytes.take error.offset) = .ok instructions ∧
            Pays error.offset instructions := by
  refine ⟨fun instructions decoded => pays_of_decode decoded, fun error failed => ?_⟩
  obtain ⟨within, ⟨instructions, decoded⟩, -⟩ := decode_take_of_error failed
  have paid := pays_of_decode decoded
  rw [List.length_take_of_le within.le] at paid
  exact ⟨paid.aligned, within, instructions, decoded, paid⟩

/-- A script of one sprite, and the same script behind a count of 2^32 - 1 sprites. -/
theorem decode_yields_what_bytes_pay_of_forged_count :
    let sprite : Bytes := (List.replicate 9 [0x3f, 0x80, 0, 0]).flatten
    let honest : Bytes := [0x00, 0x20, 0, 0, 0x00, 0x0B, 0, 1, 0, 0, 0, 1, 0x78, 0, 0, 0] ++ sprite
    let forged : Bytes :=
      [0x00, 0x20, 0, 0, 0x00, 0x0B, 0, 1, 0xff, 0xff, 0xff, 0xff, 0x78, 0, 0, 0] ++ sprite
    (∃ instructions, decode honest = .ok instructions ∧ Pays 52 instructions) ∧
      decode forged = .error ⟨4, .truncated .drawSprites 154618822620 36⟩ ∧
      ∃ instructions, decode (forged.take 4) = .ok instructions ∧ Pays 4 instructions := by
  intro sprite honest forged
  have decoded : decode honest =
      .ok [.beginPath, .drawSprites "x" [⟨⟨1, 1, 1, 1⟩, ⟨1, 1, 1, 1⟩, 1⟩]] := by decide +kernel
  have failed : decode forged = .error ⟨4, .truncated .drawSprites 154618822620 36⟩ := by
    decide +kernel
  obtain ⟨-, -, front⟩ := (decode_yields_what_bytes_pay forged).2 _ failed
  exact ⟨⟨_, decoded, (decode_yields_what_bytes_pay honest).1 _ decoded⟩, failed, front⟩

end ScenePlayer
