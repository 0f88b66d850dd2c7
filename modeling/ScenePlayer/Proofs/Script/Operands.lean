import ScenePlayer.Proofs.Bytes.Words
import ScenePlayer.Proofs.Script.Framing
import ScenePlayer.Proofs.Script.Grammar

/-!
Operands beside the grammar's records. What the operand readers find in the operands
of a record is what was laid out there (`Operands.word_append`, `Operands.text_append`,
`Grammar.sprites_append`). Operands as long as they announce are those of a record
(`Grammar.exists_words`, `Grammar.exists_text`, `Grammar.exists_sprites`).
-/

namespace ScenePlayer

theorem Colour.ofWord_word (c : Colour) : Colour.ofWord c.word = c := by
  rw [Colour.ofWord, Colour.word, Bytes.word32_join32]

theorem Colour.word_ofWord (w : UInt32) : (Colour.ofWord w).word = w :=
  Bytes.join32_word32 w

/-! ### Enumerated fields -/

theorem ClipMode.code_ofCode {w : UInt16} {mode : ClipMode} (known : ofCode w.toNat = some mode) :
    mode.code = w := by
  unfold ofCode at known
  split at known <;> cases known <;> exact UInt16.toNat_inj.1 (Eq.symm ‹_›)

theorem LineCap.code_ofCode {w : UInt16} {cap : LineCap} (known : ofCode w.toNat = some cap) :
    cap.code = w := by
  unfold ofCode at known
  split at known <;> cases known <;> exact UInt16.toNat_inj.1 (Eq.symm ‹_›)

theorem LineJoin.code_ofCode {w : UInt16} {join : LineJoin} (known : ofCode w.toNat = some join) :
    join.code = w := by
  unfold ofCode at known
  split at known <;> cases known <;> exact UInt16.toNat_inj.1 (Eq.symm ‹_›)

theorem TextAlign.code_ofCode {w : UInt16} {align : TextAlign}
    (known : ofCode w.toNat = some align) : align.code = w := by
  unfold ofCode at known
  split at known <;> cases known <;> exact UInt16.toNat_inj.1 (Eq.symm ‹_›)

theorem TextBaseline.code_ofCode {w : UInt16} {baseline : TextBaseline}
    (known : ofCode w.toNat = some baseline) : baseline.code = w := by
  unfold ofCode at known
  split at known <;> cases known <;> exact UInt16.toNat_inj.1 (Eq.symm ‹_›)

namespace Operands

theorem field_append (field : UInt16) (rest : Bytes) :
    Operands.field (Bytes.word16 field ++ rest) = field :=
  Bytes.front16_word16 field rest

theorem word_append (field : UInt16) (words : List UInt32) (i : Nat) :
    word (Bytes.word16 field ++ words.flatMap Bytes.word32) i = words.getD i 0 := by
  rw [word, Nat.add_comm]
  exact Bytes.front32_drop words i

/-- An enumerated field that has a meaning holds the code of that meaning. -/
theorem exists_code {α : Type} {table : Nat → Option α} {code : α → UInt16}
    (inverse : ∀ {w : UInt16} {meaning}, table w.toNat = some meaning → code meaning = w)
    {make : α → Instruction} {field : UInt16} {rest : Bytes} {instruction : Instruction}
    (read : (enumerated table (Bytes.word16 field ++ rest)).map make = .ok instruction) :
    ∃ meaning, code meaning = field := by
  rw [enumerated, field_append] at read
  split at read
  · rename_i meaning known
    exact ⟨meaning, inverse known⟩
  · cases read

theorem text_append {length : UInt16} {content : Bytes} (size : content.length = length.toNat)
    (rest : Bytes) : text (Bytes.word16 length ++ (content ++ rest)) = Utf8.read content := by
  rw [text, field_append, ← size]
  exact congrArg Utf8.read List.take_left

theorem spriteImage_append {length : UInt16} {content : Bytes}
    (size : content.length = length.toNat) (count : UInt32) (rest : Bytes) :
    spriteImage (Bytes.word16 length ++ (Bytes.word32 count ++ (content ++ rest))) =
      Utf8.read content := by
  rw [spriteImage, field_append, ← size]
  exact congrArg Utf8.read List.take_left

end Operands

namespace Grammar

theorem Padded.length_append {length : UInt16} {content pad : Bytes}
    (text : Padded length content pad) : (content ++ pad).length = padded length.toNat := by
  rw [List.length_append, text.content_length, text.pad_length]
  rfl

/-- A text with its padding is cut out of bytes that hold as many. -/
theorem exists_padded {length : UInt16} {bytes : Bytes}
    (enough : padded length.toNat ≤ bytes.length) :
    ∃ content pad rest, Padded length content pad ∧ bytes = content ++ (pad ++ rest) := by
  have size : padded length.toNat = length.toNat + (4 - length.toNat % 4) % 4 := rfl
  refine ⟨bytes.take length.toNat, (bytes.drop length.toNat).take ((4 - length.toNat % 4) % 4),
    (bytes.drop length.toNat).drop ((4 - length.toNat % 4) % 4), ⟨?_, ?_⟩, ?_⟩
  · exact List.length_take_of_le (by omega)
  · exact List.length_take_of_le (by rw [List.length_drop]; omega)
  · rw [List.take_append_drop, List.take_append_drop]

@[simp] theorem length_spriteWords (s : Sprite) : (spriteWords s).length = 9 := rfl

theorem length_flatMap_spriteWords (sprites : List Sprite) :
    (sprites.flatMap spriteWords).length = 9 * sprites.length := by
  induction sprites with
  | nil => rfl
  | cons s sprites ih =>
      rw [List.flatMap_cons, List.length_append, ih, length_spriteWords, List.length_cons]
      omega

/-- Sprites are read back from their words. -/
theorem ofWords_flatMap (sprites : List Sprite) :
    Sprite.ofWords (sprites.flatMap spriteWords) = sprites := by
  induction sprites with
  | nil => rfl
  | cons s sprites ih => exact congrArg (s :: ·) ih

/-- Words that number a multiple of nine are those of sprites. -/
theorem exists_ofWords {words : List UInt32} {count : Nat} (size : words.length = 9 * count) :
    ∃ sprites : List Sprite, sprites.length = count ∧ sprites.flatMap spriteWords = words := by
  induction count generalizing words with
  | zero => exact ⟨[], rfl, (List.length_eq_zero_iff.1 size).symm⟩
  | succ count ih =>
      match words, size with
      | a :: b :: c :: d :: e :: f :: g :: h :: i :: rest, size =>
          have shorter : rest.length = 9 * count := by
            simp only [List.length_cons] at size
            omega
          obtain ⟨sprites, number, rfl⟩ := ih shorter
          refine ⟨⟨⟨⟨a⟩, ⟨b⟩, ⟨c⟩, ⟨d⟩⟩, ⟨⟨e⟩, ⟨f⟩, ⟨g⟩, ⟨h⟩⟩, ⟨i⟩⟩ :: sprites, ?_, rfl⟩
          rw [List.length_cons, number]

/-- The sprites behind an identifier are read back. -/
theorem sprites_append {length : UInt16} {content pad : Bytes} (text : Padded length content pad)
    (count : UInt32) (sprites : List Sprite) :
    Operands.sprites (Bytes.word16 length ++ (Bytes.word32 count ++
      (content ++ (pad ++ (sprites.flatMap spriteWords).flatMap Bytes.word32)))) = sprites := by
  rw [Operands.sprites, Operands.field_append, ← text.length_append, ← List.append_assoc content]
  have behind : (Bytes.word16 length ++ (Bytes.word32 count ++ ((content ++ pad) ++
      (sprites.flatMap spriteWords).flatMap Bytes.word32))).drop (6 + (content ++ pad).length) =
      (sprites.flatMap spriteWords).flatMap Bytes.word32 := by
    rw [Nat.add_comm]
    exact List.drop_left
  rw [behind, Bytes.words_flatMap, ofWords_flatMap]

/-! ### Cutting operands -/

theorem exists_words {count : Nat} {operands : Bytes}
    (announcement : (Layout.words count).announced operands = operands.length) :
    ∃ (field : UInt16) (word : Nat → UInt32), operands =
      Bytes.word16 field ++ ((List.range count).map word).flatMap Bytes.word32 := by
  simp only [Layout.announced] at announcement
  obtain ⟨field, rest, rfl⟩ := Bytes.exists_word16 (by omega : 2 ≤ operands.length)
  simp only [List.length_append, Bytes.length_word16] at announcement
  have aligned : 4 ∣ rest.length := ⟨count, by omega⟩
  have size := Bytes.length_words aligned
  have listed :
      (List.range count).map (fun i => (Bytes.words rest).getD i 0) = Bytes.words rest := by
    refine List.ext_getElem ?_ fun i _ within => ?_
    · rw [List.length_map, List.length_range]
      omega
    · rw [List.getElem_map, List.getElem_range, List.getD_eq_getElem?_getD,
        List.getElem?_eq_getElem within, Option.getD_some]
  refine ⟨field, fun i => (Bytes.words rest).getD i 0, ?_⟩
  rw [listed, Bytes.flatMap_words aligned]

theorem exists_text {operands : Bytes}
    (announcement : Layout.text.announced operands = operands.length) :
    ∃ (length : UInt16) (content pad : Bytes), Padded length content pad ∧
      operands = Bytes.word16 length ++ (content ++ pad) := by
  simp only [Layout.announced] at announcement
  obtain ⟨length, rest, rfl⟩ := Bytes.exists_word16 (by omega : 2 ≤ operands.length)
  simp only [Bytes.front16_word16, List.length_append, Bytes.length_word16] at announcement
  obtain ⟨content, pad, behind, text, rfl⟩ :=
    exists_padded (by omega : padded length.toNat ≤ rest.length)
  obtain rfl : behind = [] := by
    have size := text.length_append
    rw [← List.length_eq_zero_iff]
    simp only [List.length_append] at announcement size
    omega
  exact ⟨length, content, pad, text, by rw [List.append_nil]⟩

theorem exists_sprites {operands : Bytes}
    (announcement : Layout.sprites.announced operands = operands.length) :
    ∃ (length : UInt16) (count : UInt32) (content pad : Bytes) (sprites : List Sprite),
      Padded length content pad ∧ sprites.length = count.toNat ∧
      Bytes.word16 0x000B ++ operands = spritesRecord 0x000B length count content pad sprites := by
  simp only [Layout.announced] at announcement
  obtain ⟨length, rest, rfl⟩ := Bytes.exists_word16 (by omega : 2 ≤ operands.length)
  have behind : (Bytes.word16 length ++ rest).drop 2 = rest := rfl
  simp only [Bytes.front16_word16, behind, List.length_append, Bytes.length_word16] at announcement
  obtain ⟨count, rest, rfl⟩ := Bytes.exists_word32 (by omega : 4 ≤ rest.length)
  simp only [Bytes.front32_word32, List.length_append, Bytes.length_word32] at announcement
  obtain ⟨content, pad, rest, text, rfl⟩ :=
    exists_padded (by omega : padded length.toNat ≤ rest.length)
  have size := text.length_append
  simp only [List.length_append] at announcement size
  have aligned : 4 ∣ rest.length := ⟨9 * count.toNat, by omega⟩
  have words := Bytes.length_words aligned
  obtain ⟨sprites, number, listed⟩ :=
    exists_ofWords (by omega : (Bytes.words rest).length = 9 * count.toNat)
  refine ⟨length, count, content, pad, sprites, text, number, ?_⟩
  rw [spritesRecord, listed, Bytes.flatMap_words aligned]

end Grammar

end ScenePlayer
