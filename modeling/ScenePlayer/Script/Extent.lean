import ScenePlayer.Script.DecodeError

/-!
How far the operands of a record reach. The extent is read off the layout and
the length fields alone, before any operand is looked at, so a record is known
to be whole before it is read. All extents are two more than a multiple of four
(`Layout.extent_bounds`): with its opcode every record keeps four-byte alignment.
-/

namespace ScenePlayer

/-- Some part of a record needs more bytes than are left for it. -/
structure Shortage where
  needed : Nat
  available : Nat
  deriving DecidableEq, Repr

/-- The number of zero bytes after a text of `length` bytes: texts are padded to
a multiple of four. -/
def padding (length : Nat) : Nat := (4 - length % 4) % 4

/-- The length of a text with its padding. -/
def padded (length : Nat) : Nat := length + padding length

theorem padded_mod_four (length : Nat) : padded length % 4 = 0 := by
  unfold padded padding
  omega

namespace Layout

def require (needed : Nat) (bytes : Bytes) : Except Shortage Unit :=
  if Bytes.holds needed bytes then .ok () else .error ⟨needed, bytes.length⟩

/-- The number of operand bytes of a record, given all that follows its opcode. -/
def extent : Layout → Bytes → Except Shortage Nat
  | .words count, operands => do
      require (2 + 4 * count) operands
      return 2 + 4 * count
  | .text, operands => do
      require 2 operands
      let text := padded (Bytes.front16 operands).toNat
      require text (operands.drop 2)
      return 2 + text
  | .sprites, operands => do
      require 6 operands
      let id := padded (Bytes.front16 operands).toNat
      let count := (Bytes.front32 (operands.drop 2)).toNat
      require id (operands.drop 6)
      require (36 * count) (operands.drop (6 + id))
      return 6 + id + 36 * count

theorem require_bind_eq_ok {α : Type} {needed : Nat} {bytes : Bytes}
    {next : Unit → Except Shortage α} {a : α} :
    (require needed bytes >>= next) = .ok a ↔ needed ≤ bytes.length ∧ next () = .ok a := by
  unfold require
  by_cases enough : needed ≤ bytes.length <;> simp [enough, bind, Except.bind]

theorem require_bind_eq_error {α : Type} {needed : Nat} {bytes : Bytes}
    {next : Unit → Except Shortage α} {shortage : Shortage} :
    (require needed bytes >>= next) = .error shortage ↔
      bytes.length < needed ∧ shortage = ⟨needed, bytes.length⟩ ∨
        needed ≤ bytes.length ∧ next () = .error shortage := by
  unfold require
  by_cases enough : needed ≤ bytes.length
  · simp [enough, Nat.not_lt.2 enough, bind, Except.bind]
  · simp [enough, Nat.lt_of_not_le enough, bind, Except.bind, @eq_comm _ shortage]

/-- An extent is two more than a multiple of four and lies within the bytes. -/
theorem extent_bounds {layout : Layout} {operands : Bytes} {size : Nat}
    (computed : layout.extent operands = .ok size) :
    size % 4 = 2 ∧ size ≤ operands.length := by
  cases layout with
  | words count =>
      simp only [extent, require_bind_eq_ok, pure, Except.pure, Except.ok.injEq] at computed
      omega
  | text =>
      have aligned := padded_mod_four (Bytes.front16 operands).toNat
      simp only [extent, require_bind_eq_ok, pure, Except.pure, Except.ok.injEq,
        List.length_drop] at computed
      omega
  | sprites =>
      have aligned := padded_mod_four (Bytes.front16 operands).toNat
      simp only [extent, require_bind_eq_ok, pure, Except.pure, Except.ok.injEq,
        List.length_drop] at computed
      omega

end Layout

end ScenePlayer
