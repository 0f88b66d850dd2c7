import ScenePlayer.Script.Operand

/-!
Decoding a script buffer: a run of records, each an opcode and its operands.
Decoding is all or nothing; the first record at fault rejects the buffer.
-/

namespace ScenePlayer

/-- The instruction of the record at the front of a buffer, and the size of the
record. The record has to be whole before its operands are looked at. -/
def readRecord : Bytes → Except Fault (Instruction × Nat)
  | a :: b :: operands =>
      match Opcode.ofCode (Bytes.join16 a b) with
      | none => .error (.unknownOpcode (Bytes.join16 a b))
      | some op =>
          match op.layout.extent operands with
          | .error shortage => .error (.truncated op shortage.needed shortage.available)
          | .ok size =>
              match op.read (operands.take size) with
              | .error value => .error (.invalidOperand op value)
              | .ok instruction => .ok (instruction, 2 + size)
  | _ => .error .trailingByte

theorem readRecord_size {bytes : Bytes} {instruction : Instruction} {size : Nat}
    (computed : readRecord bytes = .ok (instruction, size)) :
    4 ≤ size ∧ size % 4 = 0 ∧ size ≤ bytes.length := by
  unfold readRecord at computed
  split at computed
  · split at computed
    · cases computed
    · split at computed
      · cases computed
      · rename_i found
        have bounds := Layout.extent_bounds found
        split at computed
        · cases computed
        · cases computed
          simp only [List.length_cons]
          omega
  · cases computed

/-- The instructions of a buffer whose first byte has the given offset. -/
def decodeFrom (offset : Nat) (bytes : Bytes) : Except DecodeError (List Instruction) :=
  if bytes = [] then .ok []
  else
    match _found : readRecord bytes with
    | .error fault => .error ⟨offset, fault⟩
    | .ok (instruction, size) =>
        match decodeFrom (offset + size) (bytes.drop size) with
        | .error error => .error error
        | .ok rest => .ok (instruction :: rest)
termination_by bytes.length
decreasing_by
  have := readRecord_size _found
  rw [List.length_drop]
  omega

/-- The instructions of a script buffer. -/
def decode (bytes : Bytes) : Except DecodeError (List Instruction) := decodeFrom 0 bytes

end ScenePlayer
