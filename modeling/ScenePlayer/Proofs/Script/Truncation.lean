import ScenePlayer.Proofs.Script.Cuts

/-!
What a truncated record asks for. A part of a record is asked for once all bytes in front of it
are there, so bytes that are still too few only add to those available
(`Layout.extent_append_of_short`). The shortfall of a truncation is therefore a lower bound: a
buffer that goes on with less stays truncated in the same place, asking for the same. A record
without text and sprites asks for all of itself at once, so there the shortfall is exact
(`truncation_asks_for_missing_bytes`).
-/

namespace ScenePlayer

namespace Layout

/-- Bytes that are too few stay so with fewer than are missing behind them. -/
theorem require_append_of_short {α : Type} {needed : Nat} {bytes more : Bytes}
    (next : Unit → Except Shortage α) (short : bytes.length + more.length < needed) :
    (require needed (bytes ++ more) >>= next) = .error ⟨needed, bytes.length + more.length⟩ := by
  rw [require_bind_eq_error, List.length_append]
  exact .inl ⟨short, rfl⟩

/-- Operands that are short of a part are short of the same part, by as much less, with too few
bytes behind them. -/
theorem extent_append_of_short {layout : Layout} {operands more : Bytes} {shortage : Shortage}
    (computed : layout.extent operands = .error shortage)
    (short : shortage.available + more.length < shortage.needed) :
    layout.extent (operands ++ more) =
      .error ⟨shortage.needed, shortage.available + more.length⟩ := by
  cases layout with
  | words count =>
      rcases require_bind_eq_error.1 computed with ⟨-, rfl⟩ | ⟨-, ⟨⟩⟩
      exact require_append_of_short _ short
  | text =>
      rcases require_bind_eq_error.1 computed with ⟨-, rfl⟩ | ⟨field, rest⟩
      · exact require_append_of_short _ short
      · -- The length field is whole, so it announces the same text.
        rcases require_bind_eq_error.1 rest with ⟨-, rfl⟩ | ⟨-, ⟨⟩⟩
        refine require_bind_eq_error.2 (.inr ⟨?_, ?_⟩)
        · rw [List.length_append]
          omega
        · rw [Bytes.front16_append field, List.drop_append_of_le_length field]
          exact require_append_of_short _ short
  | sprites =>
      rcases require_bind_eq_error.1 computed with ⟨-, rfl⟩ | ⟨head, rest⟩
      · exact require_append_of_short _ short
      · have field : 2 ≤ operands.length := by omega
        have count : 4 ≤ (operands.drop 2).length := by
          rw [List.length_drop]
          omega
        refine require_bind_eq_error.2 (.inr ⟨?_, ?_⟩)
        · rw [List.length_append]
          omega
        · -- Both counts are whole, so the same identifier and sprites are asked for.
          rw [Bytes.front16_append field, List.drop_append_of_le_length field,
            Bytes.front32_append count, List.drop_append_of_le_length head]
          rcases require_bind_eq_error.1 rest with ⟨-, rfl⟩ | ⟨id, rest⟩
          · exact require_append_of_short _ short
          · rcases require_bind_eq_error.1 rest with ⟨-, rfl⟩ | ⟨-, ⟨⟩⟩
            have reached : 6 + padded (Bytes.front16 operands).toNat ≤ operands.length := by
              rw [List.length_drop] at id
              omega
            refine require_bind_eq_error.2 (.inr ⟨?_, ?_⟩)
            · rw [List.length_append]
              omega
            · rw [List.drop_append_of_le_length reached]
              exact require_append_of_short _ short

/-- A run of words asks for all of it at once. -/
theorem extent_words_eq_error {count : Nat} {operands : Bytes} {shortage : Shortage} :
    (words count).extent operands = .error shortage ↔
      operands.length < 2 + 4 * count ∧ shortage = ⟨2 + 4 * count, operands.length⟩ := by
  refine require_bind_eq_error.trans ⟨?_, .inl⟩
  rintro (short | ⟨-, ⟨⟩⟩)
  exact short

end Layout

/-! ### Records -/

/-- A truncated record stays so with fewer bytes behind it than are missing. -/
theorem readRecord_append_of_short {bytes more : Bytes} {op : Opcode} {needed available : Nat}
    (truncated : readRecord bytes = .error (.truncated op needed available))
    (short : available + more.length < needed) :
    readRecord (bytes ++ more) = .error (.truncated op needed (available + more.length)) := by
  obtain ⟨operands, rfl, missing⟩ := readRecord_eq_truncated.1 truncated
  refine readRecord_eq_truncated.2 ⟨operands ++ more, List.append_assoc .., ?_⟩
  exact Layout.extent_append_of_short missing short

section Words

variable {op : Opcode} {count : Nat} (layout : op.layout = .words count)

include layout

/-- Operands of the full size make a record, unless an enumerated field has no meaning. -/
theorem readRecord_of_full_words {operands : Bytes} (full : operands.length = 2 + 4 * count) :
    (∃ instruction, IsRecord instruction (Bytes.word16 op.code ++ operands)) ∨
      ∃ value, readRecord (Bytes.word16 op.code ++ operands) =
        .error (.invalidOperand op value) := by
  have computed : op.layout.extent operands = .ok operands.length := by
    rw [layout, Layout.extent_eq_ok]
    exact ⟨full.symm, Nat.le_refl _⟩
  cases meaning : op.read (operands.take operands.length) with
  | ok instruction =>
      refine .inl ⟨instruction, readRecord_eq_ok.2 ⟨op, operands, _, rfl, computed, meaning, ?_⟩⟩
      rw [List.length_append, Bytes.length_word16]
  | error value =>
      refine .inr ⟨value, ?_⟩
      simp only [readRecord_word16, computed, meaning]

/-- The full size is that of every record of the opcode. -/
theorem Grammar.Row.length_words {instruction : Instruction} {operands : Bytes}
    (row : Row instruction (Bytes.word16 op.code ++ operands)) :
    operands.length = 2 + 4 * count := by
  have read := row.isRecord
  rw [IsRecord, readRecord_word16] at read
  split at read
  · cases read
  · rename_i extent computed
    rw [layout, Layout.extent_eq_ok] at computed
    have announced : 2 + 4 * count = extent := computed.1
    split at read
    · cases read
    · have size := congrArg Prod.snd (Except.ok.inj read)
      simp only [List.length_append, Bytes.length_word16] at size
      omega

end Words

/-! ### Buffers -/

section Behind

variable {instructions : List Instruction} {records : List Bytes}
  (run : List.Forall₂ IsRecord instructions records)

include run

/-- Behind a run of records a truncated one is reported where it starts. -/
theorem decode_flatten_append_of_truncated {rest : Bytes} {op : Opcode} {needed available : Nat}
    (truncated : readRecord rest = .error (.truncated op needed available)) :
    decode (records.flatten ++ rest) =
      .error ⟨records.flatten.length, .truncated op needed available⟩ := by
  refine decode_flatten_append_of_error run ?_ truncated
  rintro rfl
  cases truncated

/-- Behind a run of records operands of the full size are read, unless an enumerated field has
no meaning. -/
theorem decode_flatten_append_of_full_words {op : Opcode} {count : Nat} {operands : Bytes}
    (layout : op.layout = .words count) (full : operands.length = 2 + 4 * count) :
    (∃ more, decode (records.flatten ++ (Bytes.word16 op.code ++ operands)) = .ok more) ∨
      ∃ value, decode (records.flatten ++ (Bytes.word16 op.code ++ operands)) =
        .error ⟨records.flatten.length, .invalidOperand op value⟩ := by
  rcases readRecord_of_full_words layout full with ⟨instruction, whole⟩ | ⟨value, failed⟩
  · have joined := decode_flatten (List.rel_append run (.cons whole .nil))
    rw [List.flatten_append, List.flatten_singleton] at joined
    exact .inl ⟨_, joined⟩
  · exact .inr ⟨value, decode_flatten_append_of_error run (List.cons_ne_nil _ _) failed⟩

end Behind

/-- **A truncation asks for bytes that are missing.** It needs more than there is, and its opcode
stands at its offset. With fewer bytes behind it than are missing, a buffer stays truncated in the
same place and needs the same, and these bytes add to what is available. If the layout is a number
of words, what is available is all that stands behind the opcode, and what is needed is the size of
the operands of every record of that opcode; with just the missing bytes behind it, whatever they
are, the buffer is accepted, or the enumerated field of the record has no meaning. -/
theorem truncation_asks_for_missing_bytes {bytes : Bytes} {offset needed available : Nat}
    {op : Opcode} (failed : decode bytes = .error ⟨offset, .truncated op needed available⟩) :
    available < needed ∧
      ∃ operands, bytes.drop offset = Bytes.word16 op.code ++ operands ∧
        (∀ more : Bytes, more.length < needed - available →
          decode (bytes ++ more) =
            .error ⟨offset, .truncated op needed (available + more.length)⟩) ∧
        ∀ count, op.layout = .words count →
          available = operands.length ∧ needed = 2 + 4 * count ∧
            (∀ instruction whole, Grammar.Row instruction (Bytes.word16 op.code ++ whole) →
              whole.length = needed) ∧
            ∀ more : Bytes, more.length = needed - available →
              (∃ instructions, decode (bytes ++ more) = .ok instructions) ∨
                ∃ value, decode (bytes ++ more) = .error ⟨offset, .invalidOperand op value⟩ := by
  obtain ⟨instructions, records, rest, run, rfl, -, truncated, place⟩ := decodeFrom_eq_error failed
  obtain rfl : offset = records.flatten.length := place.trans (Nat.zero_add _)
  obtain ⟨operands, rfl, missing⟩ := readRecord_eq_truncated.1 truncated
  have less : available < needed := Layout.extent_eq_error missing
  refine ⟨less, operands, List.drop_left, fun more short => ?_, fun count layout => ?_⟩
  · rw [List.append_assoc]
    exact decode_flatten_append_of_truncated run
      (readRecord_append_of_short truncated (by omega))
  · rw [layout, Layout.extent_words_eq_error] at missing
    cases missing.2
    refine ⟨rfl, rfl, fun instruction whole row => row.length_words layout, fun more exact => ?_⟩
    have full : (operands ++ more).length = 2 + 4 * count := by
      rw [List.length_append]
      omega
    rw [List.append_assoc, List.append_assoc]
    exact decode_flatten_append_of_full_words run layout full

/-- A line cap whose field is cut in half, and sprites cut off in their identifier. -/
theorem truncation_asks_for_missing_bytes_of_cap :
    let cap : Bytes := [0x00, 0x20, 0, 0, 0x00, 0x80, 0]
    let sprites : Bytes := [0x00, 0x0B, 0, 5, 0, 0, 0, 1, 0x61, 0x74]
    (decode cap = .error ⟨4, .truncated .lineCap 2 1⟩ ∧
      ((∃ instructions, decode (cap ++ [1]) = .ok instructions) ∨
        ∃ value, decode (cap ++ [1]) = .error ⟨4, .invalidOperand .lineCap value⟩)) ∧
    decode sprites = .error ⟨0, .truncated .drawSprites 8 2⟩ ∧
      decode (sprites ++ [0x6c, 0x61, 0x73]) = .error ⟨0, .truncated .drawSprites 8 5⟩ := by
  intro cap sprites
  have capFailed : decode cap = .error ⟨4, .truncated .lineCap 2 1⟩ := by cbv
  have spritesFailed : decode sprites = .error ⟨0, .truncated .drawSprites 8 2⟩ := by cbv
  obtain ⟨-, operands, -, -, full⟩ := truncation_asks_for_missing_bytes capFailed
  obtain ⟨-, -, -, whole⟩ := full 0 rfl
  obtain ⟨-, -, -, grows, -⟩ := truncation_asks_for_missing_bytes spritesFailed
  exact ⟨⟨capFailed, whole [1] rfl⟩, spritesFailed, grows [0x6c, 0x61, 0x73] (by decide)⟩

end ScenePlayer
