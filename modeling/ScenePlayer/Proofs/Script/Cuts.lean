import ScenePlayer.Proofs.Script.Acceptance

/-!
Buffers joined and cut. No record looks behind its own end or asks where it stands, so
behind a run of records a buffer is decoded as if it started there (`decode_joined`). A
rejected buffer is therefore decoded up to the record at fault and no further, and an
accepted one is cut short to an accepted one between two records only
(`decode_error_marks_readable_part`).
-/

namespace ScenePlayer

namespace Layout

/-- What is short is less than what is needed. -/
theorem extent_eq_error {layout : Layout} {operands : Bytes} {shortage : Shortage}
    (computed : layout.extent operands = .error shortage) :
    shortage.available < shortage.needed := by
  cases layout with
  | words count =>
      rcases require_bind_eq_error.1 computed with ⟨less, rfl⟩ | ⟨-, ⟨⟩⟩
      exact less
  | text =>
      rcases require_bind_eq_error.1 computed with ⟨less, rfl⟩ | ⟨-, rest⟩
      · exact less
      · rcases require_bind_eq_error.1 rest with ⟨less, rfl⟩ | ⟨-, ⟨⟩⟩
        exact less
  | sprites =>
      rcases require_bind_eq_error.1 computed with ⟨less, rfl⟩ | ⟨-, rest⟩
      · exact less
      · rcases require_bind_eq_error.1 rest with ⟨less, rfl⟩ | ⟨-, rest⟩
        · exact less
        · rcases require_bind_eq_error.1 rest with ⟨less, rfl⟩ | ⟨-, ⟨⟩⟩
          exact less

/-- Operands cut short have no extent. -/
theorem exists_shortage {layout : Layout} {operands : Bytes} {size : Nat}
    (computed : layout.extent operands = .ok size) {cut : Nat} (short : cut < size) :
    ∃ shortage, layout.extent (operands.take cut) = .error shortage := by
  cases found : layout.extent (operands.take cut) with
  | error shortage => exact ⟨shortage, rfl⟩
  | ok extent =>
      -- The bytes that were cut off would not have changed the extent.
      have whole := extent_append found (operands.drop cut)
      rw [List.take_append_drop, computed] at whole
      cases whole
      have within := (extent_bounds found).2
      rw [List.length_take] at within
      omega

end Layout

/-! ### One record cut short -/

/-- A record that is not read in front of other bytes is not read alone. -/
theorem exists_fault_of_append {bytes rest : Bytes} {fault : Fault}
    (failed : readRecord (bytes ++ rest) = .error fault) :
    ∃ other, readRecord bytes = .error other := by
  cases read : readRecord bytes with
  | error other => exact ⟨other, rfl⟩
  | ok record =>
      rw [readRecord_append read rest] at failed
      cases failed

/-- A record is known by its opcode as soon as that is whole, and then is truncated
wherever it is cut. -/
theorem readRecord_of_cut {record : Bytes} {instruction : Instruction}
    (whole : IsRecord instruction record) {cut : Nat} (nonempty : 0 < cut)
    (short : cut < record.length) :
    ∃ op operands, record = Bytes.word16 op.code ++ operands ∧
      if cut = 1 then readRecord (record.take cut) = .error .trailingByte
      else ∃ needed available, available < needed ∧
        readRecord (record.take cut) = .error (.truncated op needed available) := by
  obtain ⟨op, operands, extent, rfl, computed, -, size⟩ := readRecord_eq_ok.1 whole
  refine ⟨op, operands, rfl, ?_⟩
  obtain ⟨rest, rfl⟩ : ∃ rest, cut = rest + 1 := ⟨cut - 1, by omega⟩
  cases rest with
  | zero => rfl
  | succ rest =>
      obtain ⟨shortage, missing⟩ := Layout.exists_shortage computed (by omega : rest < extent)
      rw [if_neg (by omega)]
      exact ⟨shortage.needed, shortage.available, Layout.extent_eq_error missing,
        readRecord_eq_truncated.2 ⟨operands.take rest, rfl, missing⟩⟩

/-! ### Runs of records in front of other bytes -/

/-- Where a buffer starts shows in the offset of its error only. -/
theorem decodeFrom_add (distance offset : Nat) (bytes : Bytes) :
    decodeFrom (distance + offset) bytes =
      (decodeFrom offset bytes).mapError (DecodeError.shift distance) := by
  induction offset, bytes using decodeFrom.induct with
  | case1 offset =>
      rw [decodeFrom_nil, decodeFrom_nil]
      rfl
  | case2 offset bytes nonempty fault read =>
      rw [decodeFrom_of_error nonempty read, decodeFrom_of_error nonempty read]
      rfl
  | case3 offset bytes nonempty instruction size read error behind ih =>
      rw [decodeFrom_of_ok read, decodeFrom_of_ok read, Nat.add_assoc, ih, behind]
      rfl
  | case4 offset bytes nonempty instruction size read rest behind ih =>
      rw [decodeFrom_of_ok read, decodeFrom_of_ok read, Nat.add_assoc, ih, behind]
      rfl

section Run

variable {instructions : List Instruction} {records : List Bytes}
  (run : List.Forall₂ IsRecord instructions records)

include run

/-- Behind a run of records decoding goes on with what is left. -/
theorem decodeFrom_flatten_append (offset : Nat) (rest : Bytes) :
    decodeFrom offset (records.flatten ++ rest) =
      (decodeFrom (offset + records.flatten.length) rest).map (instructions ++ ·) := by
  induction run generalizing offset with
  | nil =>
      change decodeFrom offset rest = (decodeFrom offset rest).map id
      cases decodeFrom offset rest <;> rfl
  | @cons instruction record instructions records whole _ ih =>
      rw [List.flatten_cons, List.append_assoc, decodeFrom_of_ok (readRecord_append whole _),
        List.drop_left, ih, List.length_append, Nat.add_assoc]
      cases decodeFrom (offset + (record.length + records.flatten.length)) rest <;> rfl

/-- Whole records are decoded. -/
theorem decode_flatten : decode records.flatten = .ok instructions :=
  decodeFrom_eq_ok.2 ⟨records, run, rfl⟩

/-- The first fault behind a run of records rejects the buffer. -/
theorem decode_flatten_append_of_error {rest : Bytes} (nonempty : rest ≠ []) {fault : Fault}
    (failed : readRecord rest = .error fault) :
    decode (records.flatten ++ rest) = .error ⟨records.flatten.length, fault⟩ := by
  rw [decode, decodeFrom_flatten_append run, Nat.zero_add, decodeFrom_of_error nonempty failed]
  rfl

end Run

/-- A rejected buffer starts with a run of records, and its error is that of the first
record behind them. -/
theorem decodeFrom_eq_error {offset : Nat} {bytes : Bytes} {error : DecodeError}
    (failed : decodeFrom offset bytes = .error error) :
    ∃ instructions records rest, List.Forall₂ IsRecord instructions records ∧
      bytes = records.flatten ++ rest ∧ rest ≠ [] ∧ readRecord rest = .error error.fault ∧
        error.offset = offset + records.flatten.length := by
  induction offset, bytes using decodeFrom.induct with
  | case1 offset =>
      rw [decodeFrom_nil] at failed
      cases failed
  | case2 offset bytes nonempty fault read =>
      rw [decodeFrom_of_error nonempty read] at failed
      cases failed
      exact ⟨[], [], bytes, .nil, rfl, nonempty, read, rfl⟩
  | case3 offset bytes nonempty instruction size read other behind ih =>
      rw [decodeFrom_of_ok read, behind] at failed
      cases failed
      obtain ⟨instructions, records, rest, run, cut, left, fault, place⟩ := ih behind
      have taken : (bytes.take size).length = size :=
        List.length_take_of_le (readRecord_size read).2.2
      have whole : IsRecord instruction (bytes.take size) := by
        rw [IsRecord, taken]
        exact readRecord_take read
      refine ⟨instruction :: instructions, bytes.take size :: records, rest, .cons whole run, ?_,
        left, fault, ?_⟩
      · rw [List.flatten_cons, List.append_assoc, ← cut, List.take_append_drop]
      · rw [place, List.flatten_cons, List.length_append, taken, Nat.add_assoc]
  | case4 offset bytes nonempty instruction size read rest behind =>
      rw [decodeFrom_of_ok read, behind] at failed
      cases failed

/-- **Decoding is compositional.** Behind an accepted buffer another one is decoded as it
is alone: its instructions follow, or its error comes so many bytes later. -/
theorem decode_joined {front : Bytes} {instructions : List Instruction}
    (decoded : decode front = .ok instructions) (back : Bytes) :
    (∀ more, decode back = .ok more → decode (front ++ back) = .ok (instructions ++ more)) ∧
      ∀ error, decode back = .error error →
        decode (front ++ back) = .error (error.shift front.length) := by
  obtain ⟨records, run, rfl⟩ := decodeFrom_eq_ok.1 decoded
  have joined : decode (records.flatten ++ back) =
      ((decode back).mapError (DecodeError.shift records.flatten.length)).map
        (instructions ++ ·) := by
    rw [decode, decodeFrom_flatten_append run, Nat.zero_add, decode, ← decodeFrom_add, Nat.add_zero]
  constructor
  · intro more accepted
    rw [joined, accepted]
    rfl
  · intro error failed
    rw [joined, failed]
    rfl

/-- A script in front of another one, and in front of one whose only sprite is cut off. -/
theorem decode_joined_to_sprites :
    let front : Bytes := [0x00, 0x20, 0, 0, 0x00, 0x0F, 0, 2, 0x61, 0x62, 0, 0]
    let sprites : Bytes := [0x00, 0x0B, 0, 1, 0, 0, 0, 1, 0x78, 0, 0, 0, 0x3f, 0x80]
    decode front = .ok [.beginPath, .drawScript "ab"] ∧
      decode (front ++ [0x00, 0x22, 0, 0]) = .ok [.beginPath, .drawScript "ab", .fillPath] ∧
      decode (front ++ sprites) = .error ⟨12, .truncated .drawSprites 36 2⟩ := by
  intro front sprites
  have decoded : decode front = .ok [.beginPath, .drawScript "ab"] := by decide +kernel
  have accepted : decode [0x00, 0x22, 0, 0] = .ok [.fillPath] := by decide +kernel
  have rejected : decode sprites = .error ⟨0, .truncated .drawSprites 36 2⟩ := by decide +kernel
  exact ⟨decoded, (decode_joined decoded _).1 _ accepted, (decode_joined decoded _).2 _ rejected⟩

/-! ### Boundaries -/

namespace Grammar

/-- So many bytes are taken up by the first few records: by none, by some or by all. -/
def IsBoundary (records : List Bytes) (cut : Nat) : Prop :=
  ∃ before, before <+: records ∧ before.flatten.length = cut

/-- The last boundary before a cut. -/
structure IsLastBoundary (records : List Bytes) (cut boundary : Nat) : Prop where
  isBoundary : IsBoundary records boundary
  before : boundary < cut
  last : ∀ other, IsBoundary records other → other < cut → other ≤ boundary

/-- A cut is between two records or within one. -/
theorem isBoundary_or_within {records : List Bytes} {cut : Nat}
    (within : cut ≤ records.flatten.length) :
    IsBoundary records cut ∨
      ∃ before record behind, records = before ++ record :: behind ∧
        before.flatten.length < cut ∧ cut < before.flatten.length + record.length := by
  induction records generalizing cut with
  | nil =>
      obtain rfl : cut = 0 := Nat.le_zero.1 within
      exact .inl ⟨[], List.nil_prefix, rfl⟩
  | cons first records ih =>
      rw [List.flatten_cons, List.length_append] at within
      by_cases reached : first.length ≤ cut
      · obtain ⟨further, rfl⟩ := Nat.exists_eq_add_of_le reached
        rcases ih (by omega : further ≤ records.flatten.length) with
          ⟨before, early, length⟩ | ⟨before, record, behind, rfl, later, earlier⟩
        · refine .inl ⟨first :: before, List.cons_prefix_cons.2 ⟨rfl, early⟩, ?_⟩
          rw [List.flatten_cons, List.length_append, length]
        · refine .inr ⟨first :: before, record, behind, rfl, ?_, ?_⟩ <;>
            rw [List.flatten_cons, List.length_append] <;> omega
      · rcases Nat.eq_zero_or_pos cut with rfl | positive
        · exact .inl ⟨[], List.nil_prefix, rfl⟩
        · exact .inr ⟨[], first, records, rfl, positive, by simp; omega⟩

theorem length_flatten_le_of_initial {few records : List Bytes} (early : few <+: records) :
    few.flatten.length ≤ records.flatten.length := by
  obtain ⟨more, rfl⟩ := early
  rw [List.flatten_append, List.length_append]
  exact Nat.le_add_right ..

/-- Within a record the last boundary is the record's start, and nothing between is one. -/
theorem isLastBoundary_of_within {before : List Bytes} {record : Bytes} (behind : List Bytes)
    {cut : Nat} (later : before.flatten.length < cut)
    (earlier : cut < before.flatten.length + record.length) :
    IsLastBoundary (before ++ record :: behind) cut before.flatten.length ∧
      ¬ IsBoundary (before ++ record :: behind) cut := by
  -- The first few records either lack the one that is cut or have it among them.
  have apart : ∀ other, IsBoundary (before ++ record :: behind) other →
      other ≤ before.flatten.length ∨ before.flatten.length + record.length ≤ other := by
    rintro other ⟨few, early, rfl⟩
    have through : before ++ [record] <+: before ++ record :: behind := ⟨behind, by simp⟩
    have length : (before ++ [record]).flatten.length = before.flatten.length + record.length := by
      simp
    rcases List.prefix_or_prefix_of_prefix early through with fewer | more
    · rcases List.prefix_concat_iff.1 fewer with rfl | without
      · exact .inr (Nat.le_of_eq length.symm)
      · exact .inl (length_flatten_le_of_initial without)
    · rw [← length]
      exact .inr (length_flatten_le_of_initial more)
  refine ⟨⟨⟨before, List.prefix_append .., rfl⟩, later, fun other boundary less => ?_⟩,
    fun boundary => ?_⟩
  · rcases apart other boundary with lacking | beyond <;> omega
  · rcases apart cut boundary with lacking | beyond <;> omega

end Grammar

open Grammar

/-! ### Buffers cut short -/

/-- The bytes up to the fault are decoded, and none but these. -/
theorem decode_take_of_error {bytes : Bytes} {error : DecodeError}
    (failed : decode bytes = .error error) :
    error.offset < bytes.length ∧
      (∃ instructions, decode (bytes.take error.offset) = .ok instructions) ∧
      ∀ cut, error.offset < cut → cut ≤ bytes.length →
        ∃ other, decode (bytes.take cut) = .error other := by
  obtain ⟨instructions, records, rest, run, rfl, nonempty, fault, place⟩ :=
    decodeFrom_eq_error failed
  rw [Nat.zero_add] at place
  rw [place]
  refine ⟨?_, ⟨instructions, ?_⟩, fun cut later within => ?_⟩
  · rw [List.length_append]
    exact Nat.lt_add_of_pos_right (List.length_pos_iff.2 nonempty)
  · rw [List.take_left]
    exact decode_flatten run
  · obtain ⟨further, rfl⟩ := Nat.exists_eq_add_of_lt later
    have some : rest.take (further + 1) ≠ [] := by simpa using nonempty
    rw [← List.take_append_drop (further + 1) rest] at fault
    obtain ⟨other, shorter⟩ := exists_fault_of_append fault
    rw [Nat.add_assoc, List.take_length_add_append]
    exact ⟨_, decode_flatten_append_of_error run some shorter⟩

section Cut

variable {instructions : List Instruction} {records : List Bytes}
  (run : List.Forall₂ IsRecord instructions records)

include run

theorem decode_take_of_boundary {cut : Nat} (boundary : IsBoundary records cut) :
    ∃ fewer, decode (records.flatten.take cut) = .ok fewer := by
  obtain ⟨before, ⟨behind, rfl⟩, rfl⟩ := boundary
  rw [List.flatten_append, List.take_left]
  exact ⟨_, decode_flatten (List.forall₂_take_append _ _ _ run)⟩

theorem decode_take_within {before behind : List Bytes} {record : Bytes}
    (cutOut : records = before ++ record :: behind) {cut : Nat}
    (later : before.flatten.length < cut) (earlier : cut < before.flatten.length + record.length) :
    ∃ op operands, records.flatten.drop before.flatten.length = Bytes.word16 op.code ++ operands ∧
      if cut = before.flatten.length + 1 then
        decode (records.flatten.take cut) = .error ⟨before.flatten.length, .trailingByte⟩
      else ∃ needed available, available < needed ∧
        decode (records.flatten.take cut) =
          .error ⟨before.flatten.length, .truncated op needed available⟩ := by
  subst cutOut
  have start := List.forall₂_take_append _ _ _ run
  obtain ⟨instruction, -, whole, -, -⟩ :=
    List.forall₂_cons_right_iff.1 (List.forall₂_drop_append _ _ _ run)
  obtain ⟨further, rfl⟩ := Nat.exists_eq_add_of_lt later
  obtain ⟨op, operands, opens, fault⟩ :=
    readRecord_of_cut whole (Nat.succ_pos further) (by omega)
  have taken : (before ++ record :: behind).flatten.take (before.flatten.length + further + 1) =
      before.flatten ++ record.take (further + 1) := by
    rw [List.flatten_append, Nat.add_assoc, List.take_length_add_append, List.flatten_cons,
      List.take_append_of_le_length (by omega)]
  have nonempty : record.take (further + 1) ≠ [] := by
    intro empty
    have := congrArg List.length empty
    rw [List.length_take_of_le (by omega)] at this
    cases this
  refine ⟨op, operands ++ behind.flatten, ?_, ?_⟩
  · rw [List.flatten_append, List.drop_left, List.flatten_cons, opens, List.append_assoc]
  · rw [taken]
    by_cases first : further + 1 = 1
    · rw [if_pos first] at fault
      rw [if_pos (by omega)]
      exact decode_flatten_append_of_error start nonempty fault
    · rw [if_neg first] at fault
      rw [if_neg (by omega)]
      obtain ⟨needed, available, less, truncated⟩ := fault
      exact ⟨needed, available, less, decode_flatten_append_of_error start nonempty truncated⟩

end Cut

/-- **The offset of an error is the length of the longest decodable prefix.** A rejected
buffer is accepted up to the offset of its error, and no longer part of it from the start
is. An accepted buffer is made up of records, and cut short it is accepted just if the cut
is between two of them. A cut within a record is reported at that record's start: one byte
into it as a stray byte, and further on as a truncation of the record's opcode. -/
theorem decode_error_marks_readable_part (bytes : Bytes) :
    (∀ error, decode bytes = .error error →
      error.offset < bytes.length ∧
        (∃ instructions, decode (bytes.take error.offset) = .ok instructions) ∧
        ∀ cut, error.offset < cut → cut ≤ bytes.length →
          ∃ other, decode (bytes.take cut) = .error other) ∧
    ∀ instructions, decode bytes = .ok instructions →
      ∃ records, List.Forall₂ Row instructions records ∧ records.flatten = bytes ∧
        ∀ cut ≤ bytes.length,
          ((∃ fewer, decode (bytes.take cut) = .ok fewer) ↔ IsBoundary records cut) ∧
          (¬ IsBoundary records cut →
            ∃ boundary op operands, IsLastBoundary records cut boundary ∧
              bytes.drop boundary = Bytes.word16 op.code ++ operands ∧
              if cut = boundary + 1 then decode (bytes.take cut) = .error ⟨boundary, .trailingByte⟩
              else ∃ needed available, available < needed ∧
                decode (bytes.take cut) = .error ⟨boundary, .truncated op needed available⟩) := by
  refine ⟨fun error failed => decode_take_of_error failed, fun instructions decoded => ?_⟩
  obtain ⟨records, run, rfl⟩ := decodeFrom_eq_ok.1 decoded
  refine ⟨records, run.imp fun _ _ => row_of_isRecord, rfl, fun cut within => ?_⟩
  rcases isBoundary_or_within within with
    boundary | ⟨before, record, behind, cutOut, later, earlier⟩
  · refine ⟨iff_of_true ?_ boundary, fun apart => absurd boundary apart⟩
    exact decode_take_of_boundary run boundary
  · obtain ⟨last, apart⟩ := isLastBoundary_of_within behind later earlier
    rw [← cutOut] at last apart
    obtain ⟨op, operands, opens, fault⟩ := decode_take_within run cutOut later earlier
    refine ⟨iff_of_false ?_ apart, fun _ => ⟨_, op, operands, last, opens, fault⟩⟩
    rintro ⟨fewer, accepted⟩
    split at fault
    · rw [accepted] at fault
      cases fault
    · obtain ⟨needed, available, -, truncated⟩ := fault
      rw [accepted] at truncated
      cases truncated

/-- A script with an enumerated field out of range, and one with a text, cut short. -/
theorem decode_error_marks_readable_part_of_baseline :
    let rejected : Bytes := [0x00, 0x20, 0, 0, 0x00, 0x93, 0, 9, 0x00, 0x22, 0, 0]
    let accepted : Bytes := [0x00, 0x20, 0, 0, 0x00, 0x0F, 0, 2, 0x61, 0x62, 0, 0]
    (decode rejected = .error ⟨4, .invalidOperand .textBaseline 9⟩ ∧
      (∃ instructions, decode (rejected.take 4) = .ok instructions) ∧
      ∀ cut, 4 < cut → cut ≤ 12 → ∃ other, decode (rejected.take cut) = .error other) ∧
    decode accepted = .ok [.beginPath, .drawScript "ab"] ∧
      ∃ records, List.Forall₂ Row [.beginPath, .drawScript "ab"] records ∧
        records.flatten = accepted ∧
        ∀ cut ≤ 12, (∃ fewer, decode (accepted.take cut) = .ok fewer) ↔ IsBoundary records cut := by
  intro rejected accepted
  have failed : decode rejected = .error ⟨4, .invalidOperand .textBaseline 9⟩ := by decide +kernel
  have decoded : decode accepted = .ok [.beginPath, .drawScript "ab"] := by decide +kernel
  obtain ⟨-, upTo, beyond⟩ := (decode_error_marks_readable_part rejected).1 _ failed
  obtain ⟨records, rows, joined, cuts⟩ := (decode_error_marks_readable_part accepted).2 _ decoded
  exact ⟨⟨failed, upTo, beyond⟩, decoded, records, rows, joined,
    fun cut within => (cuts cut within).1⟩

end ScenePlayer
