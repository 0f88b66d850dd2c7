import ScenePlayer.Bytes.Utf8

/-!
Reading what was written. Each character is read back from the bytes it is written
as, whatever follows them (`Utf8.character_encode`), so a text is read back unchanged
(`Utf8.read_write`).
-/

namespace ScenePlayer

namespace Utf8

/-- A text is written one character after the other. -/
theorem write_eq (text : String) : write text = text.toList.flatMap String.utf8EncodeChar := by
  conv => lhs; rw [← String.ofList_toList (s := text)]
  rw [write, String.toUTF8_eq_toByteArray, String.toByteArray_ofList, List.utf8Encode,
    List.toList_data_toByteArray]

theorem decode_append (taken rest : Bytes) :
    decode taken.length (taken ++ rest) = decode 0 rest := by
  induction taken with
  | nil => rfl
  | cons byte taken ih => exact ih

/-! ### Following bytes -/

/-- The value that continues a payload. -/
theorem extend_eq (bits value : Nat) : extend bits (UInt8.ofNat (value % 64 + 128)) =
    bits * 64 + value % 64 := by
  simp only [extend, UInt8.toNat_ofNat']
  omega

/-- A following byte lies in the general range. -/
theorem fits_general (value : Nat) : fits 0x80 0xBF (UInt8.ofNat (value % 64 + 128)) = true := by
  simp only [fits, UInt8.toNat_ofNat', decide_eq_true_eq]
  omega

theorem follow_last (bits value : Nat) (rest : Bytes) :
    follow bits 0x80 0xBF 0 (UInt8.ofNat (value % 64 + 128) :: rest) =
      (Char.ofNat (bits * 64 + value % 64), 1) := by
  rw [follow, fits_general, if_pos rfl, extend_eq]

theorem follow_more (bits low high more value : Nat) (rest : Bytes)
    (within : low ≤ value % 64 + 128 ∧ value % 64 + 128 ≤ high) :
    follow bits low high (more + 1) (UInt8.ofNat (value % 64 + 128) :: rest) =
      ((follow (bits * 64 + value % 64) 0x80 0xBF more rest).1,
        (follow (bits * 64 + value % 64) 0x80 0xBF more rest).2 + 1) := by
  have fit : fits low high (UInt8.ofNat (value % 64 + 128)) = true := by
    simp only [fits, UInt8.toNat_ofNat', decide_eq_true_eq]
    omega
  rw [follow, fit, if_pos rfl, extend_eq]

theorem character_of_lead {byte : UInt8} {bits low high more : Nat} (large : 0x80 ≤ byte.toNat)
    (announced : lead byte = some ⟨bits, low, high, more⟩) (rest : Bytes) :
    character byte rest = follow bits low high more rest := by
  rw [character, if_neg (Nat.not_lt_of_le large), announced]

/-! ### Lead bytes -/

theorem lead_two {byte : UInt8} (low : 0xC2 ≤ byte.toNat) (high : byte.toNat < 0xE0) :
    lead byte = some ⟨byte.toNat - 0xC0, 0x80, 0xBF, 0⟩ := by
  simp only [lead, Nat.not_lt_of_le low, high, if_true, if_false]

theorem lead_three {byte : UInt8} (low : 0xE0 ≤ byte.toNat) (high : byte.toNat < 0xF0) :
    lead byte = some ⟨byte.toNat - 0xE0, if byte.toNat = 0xE0 then 0xA0 else 0x80,
      if byte.toNat = 0xED then 0x9F else 0xBF, 1⟩ := by
  have two : ¬ byte.toNat < 0xC2 := by omega
  simp only [lead, two, Nat.not_lt_of_le low, high, if_true, if_false]
  by_cases first : byte.toNat = 0xE0
  · simp [first]
  · by_cases surrogates : byte.toNat = 0xED <;> simp [first, surrogates]

theorem lead_four {byte : UInt8} (low : 0xF0 ≤ byte.toNat) (high : byte.toNat ≤ 0xF4) :
    lead byte = some ⟨byte.toNat - 0xF0, if byte.toNat = 0xF0 then 0x90 else 0x80,
      if byte.toNat = 0xF4 then 0x8F else 0xBF, 2⟩ := by
  have two : ¬ byte.toNat < 0xC2 := by omega
  have three : ¬ byte.toNat < 0xE0 := by omega
  have first : byte.toNat ≠ 0xE0 := by omega
  have surrogates : byte.toNat ≠ 0xED := by omega
  simp only [lead, two, three, first, surrogates, Nat.not_lt_of_le low, if_false]
  by_cases least : byte.toNat = 0xF0
  · simp [least]
  · by_cases greatest : byte.toNat = 0xF4
    · simp [greatest]
    · have between : byte.toNat < 0xF4 := by omega
      simp [least, greatest, between]

/-! ### One character -/

theorem character_two {value : Nat} (low : 0x7F < value) (high : value ≤ 0x7FF) (rest : Bytes) :
    character (UInt8.ofNat (value / 64 % 32 + 192)) (UInt8.ofNat (value % 64 + 128) :: rest) =
      (Char.ofNat value, 1) := by
  have byte : (UInt8.ofNat (value / 64 % 32 + 192)).toNat = value / 64 + 192 := by
    rw [UInt8.toNat_ofNat']
    omega
  have bits : (value / 64 + 192 - 192) * 64 + value % 64 = value := by omega
  rw [character_of_lead (by omega) (lead_two (by omega) (by omega)), follow_last, byte, bits]

theorem character_three {value : Nat} (low : 0x7FF < value) (high : value ≤ 0xFFFF)
    (valid : value.isValidChar) (rest : Bytes) :
    character (UInt8.ofNat (value / 4096 % 16 + 224))
        (UInt8.ofNat (value / 64 % 64 + 128) :: UInt8.ofNat (value % 64 + 128) :: rest) =
      (Char.ofNat value, 2) := by
  have byte : (UInt8.ofNat (value / 4096 % 16 + 224)).toNat = value / 4096 + 224 := by
    rw [UInt8.toNat_ofNat']
    omega
  have bits : ((value / 4096 + 224 - 224) * 64 + value / 64 % 64) * 64 + value % 64 = value := by
    omega
  -- The second byte is as large as the least value asks, and below the surrogates where these are.
  have within : (if value / 4096 + 224 = 0xE0 then 0xA0 else 0x80) ≤ value / 64 % 64 + 128 ∧
      value / 64 % 64 + 128 ≤ (if value / 4096 + 224 = 0xED then 0x9F else 0xBF) := by
    split <;> split <;> omega
  rw [character_of_lead (by omega) (lead_three (by omega) (by omega)), byte,
    follow_more _ _ _ _ _ _ within, follow_last, bits]

theorem character_four {value : Nat} (low : 0xFFFF < value) (valid : value.isValidChar)
    (rest : Bytes) :
    character (UInt8.ofNat (value / 262144 % 8 + 240))
        (UInt8.ofNat (value / 4096 % 64 + 128) :: UInt8.ofNat (value / 64 % 64 + 128) ::
          UInt8.ofNat (value % 64 + 128) :: rest) =
      (Char.ofNat value, 3) := by
  have byte : (UInt8.ofNat (value / 262144 % 8 + 240)).toNat = value / 262144 + 240 := by
    rw [UInt8.toNat_ofNat']
    omega
  have bits : (((value / 262144 + 240 - 240) * 64 + value / 4096 % 64) * 64 +
      value / 64 % 64) * 64 + value % 64 = value := by
    omega
  have within : (if value / 262144 + 240 = 0xF0 then 0x90 else 0x80) ≤ value / 4096 % 64 + 128 ∧
      value / 4096 % 64 + 128 ≤ (if value / 262144 + 240 = 0xF4 then 0x8F else 0xBF) := by
    split <;> split <;> omega
  rw [character_of_lead (by omega) (lead_four (by omega) (by omega)), byte,
    follow_more _ _ _ _ _ _ within, follow_more _ _ _ _ _ _ (by omega), follow_last, bits]

/-- A character is read back from the bytes that it is written as. -/
theorem character_encode (c : Char) (rest : Bytes) :
    ∃ first more, String.utf8EncodeChar c = first :: more ∧
      character first (more ++ rest) = (c, more.length) := by
  have valid : c.toNat.isValidChar := c.valid
  have same : Char.ofNat c.toNat = c := Char.ofNat_toNat c
  have value : c.val.toNat = c.toNat := rfl
  simp only [String.utf8EncodeChar, value]
  split
  · rename_i one
    have byte : (UInt8.ofNat c.toNat).toNat = c.toNat := by
      rw [UInt8.toNat_ofNat']
      omega
    refine ⟨_, [], rfl, ?_⟩
    rw [character, byte, if_pos (by omega), same]
    rfl
  · rename_i one
    split
    · rename_i two
      refine ⟨_, [_], rfl, ?_⟩
      rw [List.singleton_append, character_two (by omega) two, same]
      rfl
    · rename_i two
      split
      · rename_i three
        refine ⟨_, [_, _], rfl, ?_⟩
        rw [List.cons_append, List.singleton_append,
          character_three (by omega) three valid, same]
        rfl
      · rename_i three
        refine ⟨_, [_, _, _], rfl, ?_⟩
        rw [List.cons_append, List.cons_append, List.singleton_append,
          character_four (by omega) valid, same]
        rfl

theorem decode_flatMap (text : List Char) :
    decode 0 (text.flatMap String.utf8EncodeChar) = text := by
  induction text with
  | nil => rfl
  | cons c rest ih =>
      obtain ⟨first, more, written, read⟩ := character_encode c (rest.flatMap String.utf8EncodeChar)
      rw [List.flatMap_cons, written, List.cons_append, decode, read, decode_append, ih]

/-- A text is read back as it was written. -/
theorem read_write (text : String) : read (write text) = text := by
  rw [write_eq, read, decode_flatMap, String.ofList_toList]

end Utf8

end ScenePlayer
