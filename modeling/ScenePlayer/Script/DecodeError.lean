import ScenePlayer.Bytes.Hex
import ScenePlayer.Script.Opcode

/-!
Why a script buffer is rejected. An error is a fault and the offset at which the
failing record starts.
-/

namespace ScenePlayer

/-- What is wrong with a record. -/
inductive Fault where
  | unknownOpcode (code : UInt16)
  /-- Part of the operands needs more bytes than are left for it. -/
  | truncated (op : Opcode) (needed available : Nat)
  /-- An enumerated operand has no meaning. -/
  | invalidOperand (op : Opcode) (value : UInt16)
  /-- A single byte is left, too little for an opcode. -/
  | trailingByte
  deriving DecidableEq, Repr

/-- A fault and the offset of the record that has it. -/
structure DecodeError where
  offset : Nat
  fault : Fault
  deriving DecidableEq, Repr

/-- The same fault, `distance` bytes further on. -/
def DecodeError.shift (distance : Nat) (error : DecodeError) : DecodeError :=
  { error with offset := distance + error.offset }

def DecodeError.message (error : DecodeError) : String :=
  match error.fault with
  | .unknownOpcode code =>
      "unsupported opcode 0x" ++ Hex.encode (Bytes.word16 code) ++ s!" at byte {error.offset}"
  | .truncated op needed available =>
      op.name ++
        s!" truncated at byte {error.offset}: needs {needed} bytes, {available} left"
  | .invalidOperand op value =>
      op.name ++ s!" at byte {error.offset} has invalid operand {value.toNat}"
  | .trailingByte => s!"stray byte at offset {error.offset} after the last record"

end ScenePlayer
