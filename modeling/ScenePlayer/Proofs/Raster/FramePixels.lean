import Mathlib.Algebra.GroupWithZero.Nat
import ScenePlayer.Proofs.Bytes.Words
import ScenePlayer.Raster.Frame

/-!
Reading pixels of frames of any size and with any number of bytes. Places are numbered row by row
(`Frame.number`), and the bytes of a place are the group of its number. The range of a place is
computed in 64-bit words before the bytes are looked at. No step of that makes a number smaller, so
it succeeds if and only if the end of the range is a word (`Frame.pixel_of_holds`); everything else
follows from that.

A range ends at 2^64 or later only in a frame of 2^62 places or more, which needs no bytes: frames
are made of any size.
-/

namespace ScenePlayer

namespace Frame

variable {frame : Frame} {x y : UInt32}

/-! ### Places -/

/-- A frame has a place in a column and row. -/
structure Holds (frame : Frame) (x y : UInt32) : Prop where
  column : x < frame.width
  row : y < frame.height

/-- The number of a place, row by row. -/
def number (frame : Frame) (x y : UInt32) : Nat := y.toNat * frame.width.toNat + x.toNat

theorem Holds.number_lt (holds : frame.Holds x y) :
    frame.number x y < frame.width.toNat * frame.height.toNat := by
  have column : x.toNat < frame.width.toNat := holds.column
  have row : y.toNat < frame.height.toNat := holds.row
  calc frame.number x y
    _ < y.toNat * frame.width.toNat + frame.width.toNat := Nat.add_lt_add_left column _
    _ = (y.toNat + 1) * frame.width.toNat := (Nat.succ_mul ..).symm
    _ ≤ frame.height.toNat * frame.width.toNat := Nat.mul_le_mul_right _ row
    _ = frame.width.toNat * frame.height.toNat := Nat.mul_comm ..

/-- Places are known by their numbers. -/
theorem Holds.eq_of_number_eq {x' y' : UInt32} (holds : frame.Holds x y)
    (holds' : frame.Holds x' y') (same : frame.number x y = frame.number x' y') :
    x = x' ∧ y = y' := by
  have column : x.toNat < frame.width.toNat := holds.column
  have column' : x'.toNat < frame.width.toNat := holds'.column
  have wide : 0 < frame.width.toNat := Nat.zero_lt_of_lt column
  unfold number at same
  have columns := congrArg (· % frame.width.toNat) same
  have rows := congrArg (· / frame.width.toNat) same
  simp only [Nat.mul_add_mod_of_lt, column, column'] at columns
  simp only [Nat.mul_comm _ frame.width.toNat, Nat.mul_add_div wide, Nat.div_eq_of_lt column,
    Nat.div_eq_of_lt column', Nat.add_zero] at rows
  exact ⟨UInt32.toNat_inj.mp columns, UInt32.toNat_inj.mp rows⟩

/-! ### Ranges -/

/-- What comes of a number that is computed from a word, if it is not smaller than the word's. -/
theorem word_bind (further : Nat → Nat) {n : Nat} (grows : n ≤ further n) :
    (do
      let word ← Overflow.word n
      Overflow.word (further word.toNat)) = Overflow.word (further n) := by
  unfold Overflow.word
  by_cases fits : n < UInt64.size
  · simp only [fits, if_true, bind, Except.bind, UInt64.toNat_ofNat_of_lt' fits]
  · have large : ¬further n < UInt64.size := by omega
    simp only [fits, large, if_false, bind, Except.bind]

/-- An index is four times a number, if that is a word. -/
theorem index_eq (frame : Frame) (x y : UInt32) :
    frame.index x y = Overflow.word (4 * frame.number x y) := by
  have scaled : ∀ above : UInt64,
      (do
        let number ← Overflow.word (above.toNat + x.toNat)
        Overflow.word (number.toNat * 4)) = Overflow.word ((above.toNat + x.toNat) * 4) :=
    fun above => word_bind (· * 4) (by omega)
  simp only [index, Overflow.sum, Overflow.product, UInt32.toNat_toUInt64, UInt64.reduceToNat,
    scaled]
  rw [word_bind (fun above => (above + x.toNat) * 4) (by omega), number, Nat.mul_comm 4]

theorem toNat_index {start : UInt64} (computed : frame.index x y = .ok start) :
    start.toNat = 4 * frame.number x y := by
  rw [index_eq, Overflow.word] at computed
  split at computed
  · rename_i fits
    cases computed
    exact UInt64.toNat_ofNat_of_lt' fits
  · cases computed

/-- Two places have no byte in common. -/
theorem Holds.disjoint {x' y' : UInt32} (holds : frame.Holds x y) (holds' : frame.Holds x' y')
    (distinct : (x, y) ≠ (x', y')) :
    4 * frame.number x y + 4 ≤ 4 * frame.number x' y' ∨
      4 * frame.number x' y' + 4 ≤ 4 * frame.number x y := by
  have apart : frame.number x y ≠ frame.number x' y' := by
    intro same
    obtain ⟨rfl, rfl⟩ := holds.eq_of_number_eq holds' same
    exact distinct rfl
  omega

/-! ### Pixels -/

theorem slice?_group (frame : Frame) (i : Nat) :
    frame.slice? (4 * i) (4 * i + 4) =
      if 4 * i + 4 ≤ frame.rgba.size then some (Bytes.group 4 i frame.rgba.toList) else none := by
  have length : 4 * i + 4 - 4 * i = 4 := by omega
  simp [slice?, Bytes.group, List.extract_eq_take_drop, length]

/-- Outside a frame there is no pixel. -/
theorem pixel_of_not_holds (outside : ¬frame.Holds x y) : frame.pixel x y = .ok none := by
  have beyond : frame.width ≤ x ∨ frame.height ≤ y := by
    rw [← UInt32.not_lt, ← UInt32.not_lt, ← not_and_or]
    rintro ⟨column, row⟩
    exact outside ⟨column, row⟩
  exact if_pos beyond

/-- In a frame, the pixel of a place is the group of its number, if the range of the group can be
computed and there are as many bytes. -/
theorem pixel_of_holds (holds : frame.Holds x y) :
    frame.pixel x y =
      if 4 * frame.number x y + 4 < UInt64.size then
        .ok (if 4 * frame.number x y + 4 ≤ frame.rgba.size then
          some (Bytes.group 4 (frame.number x y) frame.rgba.toList) else none)
      else .error {} := by
  have inside : ¬(frame.width ≤ x ∨ frame.height ≤ y) := by
    rw [not_or, UInt32.not_le, UInt32.not_le]
    exact ⟨holds.column, holds.row⟩
  rw [pixel, if_neg inside, index_eq, ← slice?_group]
  generalize frame.number x y = n
  unfold Overflow.sum Overflow.word
  by_cases start : 4 * n < UInt64.size
  · have toNat := UInt64.toNat_ofNat_of_lt' start
    by_cases stop : 4 * n + 4 < UInt64.size
    · have toNat' := UInt64.toNat_ofNat_of_lt' stop
      simp only [start, stop, toNat, toNat', if_true, bind, Except.bind, UInt64.reduceToNat]
      rfl
    · simp only [start, stop, toNat, if_true, if_false, bind, Except.bind, UInt64.reduceToNat]
  · have stop : ¬4 * n + 4 < UInt64.size := by omega
    simp only [start, stop, if_false, bind, Except.bind]

/-- What the bytes hold for a place of the frame, by its number. -/
structure Reads (frame : Frame) (x y : UInt32) (bytes : Bytes) : Prop where
  holds : frame.Holds x y
  enough : 4 * frame.number x y + 4 ≤ frame.rgba.size
  own : bytes = Bytes.group 4 (frame.number x y) frame.rgba.toList

theorem pixel_eq_error_iff :
    frame.pixel x y = .error {} ↔
      frame.Holds x y ∧ UInt64.size ≤ 4 * frame.number x y + 4 := by
  by_cases holds : frame.Holds x y
  · rw [pixel_of_holds holds]
    by_cases fits : 4 * frame.number x y + 4 < UInt64.size
    · simp [fits]
    · simp [fits, holds, Nat.not_lt.mp fits]
  · simp [pixel_of_not_holds holds, holds]

theorem pixel_eq_some_iff {bytes : Bytes} :
    frame.pixel x y = .ok (some bytes) ↔
      frame.Reads x y bytes ∧ 4 * frame.number x y + 4 < UInt64.size := by
  by_cases holds : frame.Holds x y
  · rw [pixel_of_holds holds]
    constructor
    · intro shown
      split at shown
      · rename_i fits
        split at shown
        · rename_i enough
          cases shown
          exact ⟨⟨holds, enough, rfl⟩, fits⟩
        · cases shown
      · cases shown
    · rintro ⟨⟨-, enough, rfl⟩, fits⟩
      rw [if_pos fits, if_pos enough]
  · rw [pixel_of_not_holds holds]
    exact ⟨nofun, fun reads => absurd reads.1.holds holds⟩

/-- Where there are not too many bytes for words, a pixel is what the bytes hold for its place. -/
theorem pixel_eq_some_iff_reads {bytes : Bytes} (short : frame.rgba.size < UInt64.size) :
    frame.pixel x y = .ok (some bytes) ↔ frame.Reads x y bytes := by
  rw [pixel_eq_some_iff]
  exact and_iff_left_of_imp fun reads => Nat.lt_of_le_of_lt reads.enough short

theorem pixel_eq_none_iff :
    frame.pixel x y = .ok none ↔
      ¬frame.Holds x y ∨
        frame.rgba.size < 4 * frame.number x y + 4 ∧ 4 * frame.number x y + 4 < UInt64.size := by
  by_cases holds : frame.Holds x y
  · rw [pixel_of_holds holds]
    by_cases fits : 4 * frame.number x y + 4 < UInt64.size
    · simp [fits, holds]
    · simp [fits, holds]
  · simp [pixel_of_not_holds holds, holds]

/-- **A pixel is the four bytes at four times its number**, in frames of any size and with any bytes
that words can count: it is there exactly if the frame has the place and there are as many bytes,
and no two places share a byte. An index that is computed is four times a number in unbounded
arithmetic. But where a place of the frame has bytes that end at 2^64 or later, the computation
overflows, and there is no answer. In frames of less than 2^62 places that cannot happen. -/
theorem pixel_reads_by_number (frame : Frame) (x y : UInt32) :
    (frame.rgba.size < UInt64.size →
      ∀ bytes, frame.pixel x y = .ok (some bytes) ↔ frame.Reads x y bytes) ∧
    (frame.pixel x y = .ok none ↔
      ¬frame.Holds x y ∨
        frame.rgba.size < 4 * frame.number x y + 4 ∧ 4 * frame.number x y + 4 < UInt64.size) ∧
    (frame.pixel x y = .error {} ↔
      frame.Holds x y ∧ UInt64.size ≤ 4 * frame.number x y + 4) ∧
    (∀ start, frame.index x y = .ok start → start.toNat = 4 * frame.number x y) ∧
    (∀ x' y', frame.Holds x y → frame.Holds x' y' → (x, y) ≠ (x', y') →
      4 * frame.number x y + 4 ≤ 4 * frame.number x' y' ∨
        4 * frame.number x' y' + 4 ≤ 4 * frame.number x y) ∧
    (frame.width.toNat * frame.height.toNat < 2 ^ 62 → frame.pixel x y ≠ .error {}) := by
  refine ⟨fun short _ => pixel_eq_some_iff_reads short, pixel_eq_none_iff, pixel_eq_error_iff,
    fun _ => toNat_index, fun x' y' holds holds' => holds.disjoint holds', fun few overflow => ?_⟩
  obtain ⟨holds, large⟩ := pixel_eq_error_iff.mp overflow
  have below := holds.number_lt
  have size : UInt64.size = 2 ^ 62 * 4 := rfl
  omega

/-- A frame of one place. -/
theorem pixel_reads_by_number_of_single :
    (⟨1, 1, #[10, 20, 30, 40]⟩ : Frame).rgba.size < UInt64.size ∧
      (⟨1, 1, #[10, 20, 30, 40]⟩ : Frame).pixel 0 0 = .ok (some [10, 20, 30, 40]) := by
  have short : (⟨1, 1, #[10, 20, 30, 40]⟩ : Frame).rgba.size < UInt64.size := by decide
  obtain ⟨reads, -⟩ := pixel_reads_by_number ⟨1, 1, #[10, 20, 30, 40]⟩ 0 0
  exact ⟨short, (reads short _).mpr ⟨⟨by decide, by decide⟩, by decide, rfl⟩⟩

/-- A frame of 2^31 columns has a place of number 2^62, which its four bytes do not reach. There is
no answer for it, not even that it has no pixel. -/
theorem pixel_not_always_by_number :
    ¬∀ (frame : Frame) (x y : UInt32), frame.rgba.size < UInt64.size →
      ∃ answer, frame.pixel x y = .ok answer ∧
        ∀ bytes, answer = some bytes ↔ frame.Reads x y bytes := by
  intro always
  have overflows :
      (⟨2147483648, 4294967295, #[1, 2, 3, 4]⟩ : Frame).pixel 0 2147483648 = .error {} := by
    decide +kernel
  obtain ⟨_, answered, -⟩ :=
    always ⟨2147483648, 4294967295, #[1, 2, 3, 4]⟩ 0 2147483648 (by decide)
  rw [overflows] at answered
  cases answered

end Frame

end ScenePlayer
