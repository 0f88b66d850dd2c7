import Mathlib.Data.List.Forall2
import ScenePlayer.Script.Decoder

/-!
Where records end. The length fields at the head of a record announce how far it
reaches, so a record is read alike alone and in front of other bytes
(`readRecord_append`, `readRecord_take`). A buffer is therefore decoded exactly as
the run of records that it can be cut into (`decodeFrom_eq_ok`).
-/

namespace ScenePlayer

namespace Bytes

theorem front16_append {bytes : Bytes} (enough : 2 ≤ bytes.length) (rest : Bytes) :
    front16 (bytes ++ rest) = front16 bytes := by
  match bytes, enough with
  | _ :: _ :: _, _ => rfl

theorem front32_append {bytes : Bytes} (enough : 4 ≤ bytes.length) (rest : Bytes) :
    front32 (bytes ++ rest) = front32 bytes := by
  match bytes, enough with
  | _ :: _ :: _ :: _ :: _, _ => rfl

end Bytes

namespace Layout

/-- How many leading operand bytes tell the extent. -/
def head : Layout → Nat
  | .words _ => 0
  | .text => 2
  | .sprites => 6

/-- The extent that the length fields announce. -/
def announced : Layout → Bytes → Nat
  | .words count, _ => 2 + 4 * count
  | .text, operands => 2 + padded (Bytes.front16 operands).toNat
  | .sprites, operands =>
      6 + padded (Bytes.front16 operands).toNat + 36 * (Bytes.front32 (operands.drop 2)).toNat

theorem head_le_announced (layout : Layout) (operands : Bytes) :
    layout.head ≤ layout.announced operands := by
  cases layout <;> simp only [head, announced] <;> omega

/-- The extent of operands is the one announced, if there are as many bytes. -/
theorem extent_eq_ok {layout : Layout} {operands : Bytes} {size : Nat} :
    layout.extent operands = .ok size ↔
      layout.announced operands = size ∧ size ≤ operands.length := by
  cases layout with
  | words count =>
      simp only [extent, announced, require_bind_eq_ok, pure, Except.pure, Except.ok.injEq]
      omega
  | text =>
      simp only [extent, announced, require_bind_eq_ok, pure, Except.pure, Except.ok.injEq,
        List.length_drop]
      omega
  | sprites =>
      simp only [extent, announced, require_bind_eq_ok, pure, Except.pure, Except.ok.injEq,
        List.length_drop]
      omega

/-- Bytes behind the head do not change what it announces. -/
theorem announced_append {layout : Layout} {operands : Bytes}
    (whole : layout.head ≤ operands.length) (rest : Bytes) :
    layout.announced (operands ++ rest) = layout.announced operands := by
  cases layout with
  | words count => rfl
  | text => rw [announced, Bytes.front16_append whole, announced]
  | sprites =>
      have six : 6 ≤ operands.length := whole
      have field : 2 ≤ operands.length := by omega
      have count : 4 ≤ (operands.drop 2).length := by rw [List.length_drop]; omega
      rw [announced, Bytes.front16_append field, List.drop_append_of_le_length field,
        Bytes.front32_append count, announced]

theorem extent_append {layout : Layout} {operands : Bytes} {size : Nat}
    (computed : layout.extent operands = .ok size) (rest : Bytes) :
    layout.extent (operands ++ rest) = .ok size := by
  obtain ⟨rfl, within⟩ := extent_eq_ok.1 computed
  have whole := Nat.le_trans (layout.head_le_announced operands) within
  rw [extent_eq_ok, announced_append whole, List.length_append]
  omega

theorem extent_take {layout : Layout} {operands : Bytes} {size : Nat}
    (computed : layout.extent operands = .ok size) :
    layout.extent (operands.take size) = .ok size := by
  obtain ⟨announcement, within⟩ := extent_eq_ok.1 computed
  have taken : (operands.take size).length = size := List.length_take_of_le within
  have whole : layout.head ≤ (operands.take size).length := by
    have := layout.head_le_announced operands
    omega
  have same := announced_append whole (operands.drop size)
  rw [List.take_append_drop] at same
  rw [extent_eq_ok, ← same]
  exact ⟨announcement, Nat.le_of_eq taken.symm⟩

end Layout

/-- A record of a known opcode is truncated, or has an operand without meaning, or is read. -/
theorem readRecord_word16 (op : Opcode) (operands : Bytes) :
    readRecord (Bytes.word16 op.code ++ operands) =
      match op.layout.extent operands with
      | .error shortage => .error (.truncated op shortage.needed shortage.available)
      | .ok size =>
          match op.read (operands.take size) with
          | .error value => .error (.invalidOperand op value)
          | .ok instruction => .ok (instruction, 2 + size) := by
  have known : Opcode.ofCode (Bytes.join16 (UInt8.ofNat (op.code.toNat >>> 8))
      (UInt8.ofNat op.code.toNat)) = some op := by
    rw [Bytes.join16_word16, Opcode.ofCode_code]
  have opened : Bytes.word16 op.code ++ operands =
      UInt8.ofNat (op.code.toNat >>> 8) :: UInt8.ofNat op.code.toNat :: operands := rfl
  cases extent : op.layout.extent operands with
  | error shortage => simp only [opened, readRecord, known, extent]
  | ok size =>
      cases read : op.read (operands.take size) with
      | error value => simp only [opened, readRecord, known, extent, read]
      | ok instruction => simp only [opened, readRecord, known, extent, read]

/-- A buffer opens with a known opcode, or with an unknown one, or is too short for one. -/
theorem readRecord_cases (bytes : Bytes) :
    (∃ (op : Opcode) (operands : Bytes), bytes = Bytes.word16 op.code ++ operands) ∨
      (∃ code, readRecord bytes = .error (.unknownOpcode code)) ∨
      readRecord bytes = .error .trailingByte := by
  match bytes with
  | [] => exact .inr (.inr rfl)
  | [_] => exact .inr (.inr rfl)
  | a :: b :: operands =>
      cases known : Opcode.ofCode (Bytes.join16 a b) with
      | none =>
          refine .inr (.inl ⟨Bytes.join16 a b, ?_⟩)
          simp only [readRecord, known]
      | some op =>
          refine .inl ⟨op, operands, ?_⟩
          rw [Opcode.code_ofCode known, Bytes.word16_join16]
          rfl

/-- A record is read if its opcode is known, it is whole and its operands have a
meaning. -/
theorem readRecord_eq_ok {bytes : Bytes} {instruction : Instruction} {size : Nat} :
    readRecord bytes = .ok (instruction, size) ↔
      ∃ (op : Opcode) (operands : Bytes) (extent : Nat), bytes = Bytes.word16 op.code ++ operands ∧
        op.layout.extent operands = .ok extent ∧ op.read (operands.take extent) = .ok instruction ∧
          size = 2 + extent := by
  constructor
  · intro read
    rcases readRecord_cases bytes with ⟨op, operands, rfl⟩ | ⟨code, unknown⟩ | short
    · rw [readRecord_word16] at read
      split at read
      · cases read
      · rename_i extent computed
        split at read
        · cases read
        · rename_i instruction meaning
          cases read
          exact ⟨op, operands, extent, rfl, computed, meaning, rfl⟩
    · cases unknown.symm.trans read
    · cases short.symm.trans read
  · rintro ⟨op, operands, extent, rfl, computed, meaning, rfl⟩
    simp only [readRecord_word16, computed, meaning]

/-- A record is truncated if its opcode is known and its operands are short. -/
theorem readRecord_eq_truncated {bytes : Bytes} {op : Opcode} {needed available : Nat} :
    readRecord bytes = .error (.truncated op needed available) ↔
      ∃ operands, bytes = Bytes.word16 op.code ++ operands ∧
        op.layout.extent operands = .error ⟨needed, available⟩ := by
  constructor
  · intro read
    rcases readRecord_cases bytes with ⟨op, operands, rfl⟩ | ⟨code, unknown⟩ | short
    · rw [readRecord_word16] at read
      split at read
      · rename_i shortage missing
        cases read
        exact ⟨operands, rfl, missing⟩
      · split at read <;> cases read
    · cases unknown.symm.trans read
    · cases short.symm.trans read
  · rintro ⟨operands, rfl, missing⟩
    simp only [readRecord_word16, missing]

/-- A record is read in front of other bytes as it is alone. -/
theorem readRecord_append {bytes : Bytes} {instruction : Instruction} {size : Nat}
    (read : readRecord bytes = .ok (instruction, size)) (rest : Bytes) :
    readRecord (bytes ++ rest) = .ok (instruction, size) := by
  obtain ⟨op, operands, extent, rfl, computed, meaning, rfl⟩ := readRecord_eq_ok.1 read
  have within := (Layout.extent_bounds computed).2
  refine readRecord_eq_ok.2 ⟨op, operands ++ rest, extent, List.append_assoc .., ?_, ?_, rfl⟩
  · exact Layout.extent_append computed rest
  · rwa [List.take_append_of_le_length within]

/-- A record is read alone as it is in front of other bytes. -/
theorem readRecord_take {bytes : Bytes} {instruction : Instruction} {size : Nat}
    (read : readRecord bytes = .ok (instruction, size)) :
    readRecord (bytes.take size) = .ok (instruction, size) := by
  obtain ⟨op, operands, extent, rfl, computed, meaning, rfl⟩ := readRecord_eq_ok.1 read
  refine readRecord_eq_ok.2 ⟨op, operands.take extent, extent, ?_, ?_, ?_, rfl⟩
  · rw [Nat.add_comm]
    rfl
  · exact Layout.extent_take computed
  · rwa [List.take_take, Nat.min_self]

/-- The whole of some bytes is one record, read as an instruction. -/
def IsRecord (instruction : Instruction) (bytes : Bytes) : Prop :=
  readRecord bytes = .ok (instruction, bytes.length)

/-! ### Runs of records -/

theorem decodeFrom_nil (offset : Nat) : decodeFrom offset [] = .ok [] := by
  rw [decodeFrom, if_pos rfl]

/-- The first record at fault rejects the buffer. -/
theorem decodeFrom_of_error {offset : Nat} {bytes : Bytes} {fault : Fault} (nonempty : bytes ≠ [])
    (read : readRecord bytes = .error fault) :
    decodeFrom offset bytes = .error ⟨offset, fault⟩ := by
  rw [decodeFrom, if_neg nonempty]
  split <;> rename_i found <;> rw [read] at found <;> cases found
  rfl

/-- Decoding goes on behind a record that is read. -/
theorem decodeFrom_of_ok {offset : Nat} {bytes : Bytes} {instruction : Instruction} {size : Nat}
    (read : readRecord bytes = .ok (instruction, size)) :
    decodeFrom offset bytes =
      (decodeFrom (offset + size) (bytes.drop size)).map (instruction :: ·) := by
  have nonempty : bytes ≠ [] := by
    rintro rfl
    have := readRecord_size read
    simp only [List.length_nil] at this
    omega
  rw [decodeFrom, if_neg nonempty]
  split <;> rename_i found <;> rw [read] at found <;> cases found
  split <;> rename_i rest <;> rw [rest] <;> rfl

/-- The instructions of a buffer, wherever it starts, are those of the records that
it can be cut into. -/
theorem decodeFrom_eq_ok {offset : Nat} {bytes : Bytes} {instructions : List Instruction} :
    decodeFrom offset bytes = .ok instructions ↔
      ∃ records, List.Forall₂ IsRecord instructions records ∧ records.flatten = bytes := by
  constructor
  · intro decoded
    induction offset, bytes using decodeFrom.induct generalizing instructions with
    | case1 offset =>
        rw [decodeFrom_nil] at decoded
        cases decoded
        exact ⟨[], .nil, rfl⟩
    | case2 offset bytes nonempty fault read =>
        rw [decodeFrom_of_error nonempty read] at decoded
        cases decoded
    | case3 offset bytes nonempty instruction size read error behind =>
        rw [decodeFrom_of_ok read, behind] at decoded
        cases decoded
    | case4 offset bytes nonempty instruction size read rest behind ih =>
        rw [decodeFrom_of_ok read, behind] at decoded
        cases decoded
        obtain ⟨records, cut, joined⟩ := ih behind
        have whole : IsRecord instruction (bytes.take size) := by
          rw [IsRecord, List.length_take_of_le (readRecord_size read).2.2]
          exact readRecord_take read
        refine ⟨bytes.take size :: records, .cons whole cut, ?_⟩
        rw [List.flatten_cons, joined, List.take_append_drop]
  · rintro ⟨records, cut, rfl⟩
    induction cut generalizing offset with
    | nil => exact decodeFrom_nil offset
    | cons whole _ ih =>
        rw [List.flatten_cons, decodeFrom_of_ok (readRecord_append whole _), List.drop_left, ih]
        rfl

end ScenePlayer
