import Mathlib.Data.List.Basic
import ScenePlayer.Bytes.Word

/-!
Runs of elements of one size, above all of 32-bit words. A run of words is read back as it
was written (`Bytes.words_flatMap`), bytes that number a multiple of four are the run of
their words (`Bytes.flatMap_words`), and each word stands at four times its index
(`Bytes.front32_drop`). A run of groups of any size is read group by group (`Bytes.group`).
-/

namespace ScenePlayer

namespace Bytes

@[simp] theorem length_word16 (w : UInt16) : (word16 w).length = 2 := rfl

@[simp] theorem length_word32 (w : UInt32) : (word32 w).length = 4 := rfl

/-- The length of a run of elements that are written with `size` bytes each. -/
theorem length_flatMap_of_length {α : Type} {write : α → Bytes} {size : Nat}
    (each : ∀ element, (write element).length = size) (elements : List α) :
    (elements.flatMap write).length = size * elements.length := by
  induction elements with
  | nil => rfl
  | cons first rest ih =>
      rw [List.flatMap_cons, List.length_append, ih, each, List.length_cons, Nat.mul_succ,
        Nat.add_comm]

@[simp] theorem length_flatMap_word32 (ws : List UInt32) :
    (ws.flatMap word32).length = 4 * ws.length :=
  length_flatMap_of_length length_word32 ws

/-- A run of words is read back as it was written. -/
@[simp] theorem words_flatMap (ws : List UInt32) : words (ws.flatMap word32) = ws := by
  induction ws with
  | nil => rfl
  | cons w ws ih =>
      rw [List.flatMap_cons]
      exact congrArg₂ List.cons (join32_word32 w) ih

/-- Bytes that number a multiple of four are the run of their words. -/
theorem flatMap_words : ∀ {bytes : Bytes}, 4 ∣ bytes.length → (words bytes).flatMap word32 = bytes
  | [], _ => rfl
  | [_], aligned => by simp at aligned
  | [_, _], aligned => by simp at aligned
  | [_, _, _], aligned => by simp at aligned
  | a :: b :: c :: d :: rest, aligned => by
      have shorter : 4 ∣ rest.length := by
        simp only [List.length_cons] at aligned
        omega
      rw [words, List.flatMap_cons, word32_join32, flatMap_words shorter]
      rfl

theorem length_words {bytes : Bytes} (aligned : 4 ∣ bytes.length) :
    4 * (words bytes).length = bytes.length := by
  rw [← length_flatMap_word32, flatMap_words aligned]

theorem exists_word16 {bytes : Bytes} (enough : 2 ≤ bytes.length) :
    ∃ w rest, bytes = word16 w ++ rest := by
  match bytes, enough with
  | a :: b :: rest, _ => exact ⟨join16 a b, rest, by rw [word16_join16]; rfl⟩

theorem exists_word32 {bytes : Bytes} (enough : 4 ≤ bytes.length) :
    ∃ w rest, bytes = word32 w ++ rest := by
  match bytes, enough with
  | a :: b :: c :: d :: rest, _ => exact ⟨join32 a b c d, rest, by rw [word32_join32]; rfl⟩

/-- The word at an index; 0 behind the last one. -/
theorem front32_drop (ws : List UInt32) (i : Nat) :
    front32 ((ws.flatMap word32).drop (4 * i)) = ws.getD i 0 := by
  induction ws generalizing i with
  | nil => simp [front32]
  | cons w ws ih =>
      rw [List.flatMap_cons]
      cases i with
      | zero => exact front32_word32 w _
      | succ i => exact ih i

/-! ### Groups -/

/-- Group `i` in a run of groups of `size` bytes. -/
def group (size i : Nat) (bytes : Bytes) : Bytes := (bytes.drop (size * i)).take size

theorem group_zero (own rest : Bytes) : (own ++ rest).group own.length 0 = own := by
  rw [group, Nat.mul_zero, List.drop_zero, List.take_left]

theorem group_succ (own rest : Bytes) (i : Nat) :
    (own ++ rest).group own.length (i + 1) = rest.group own.length i := by
  rw [group, Nat.mul_succ, Nat.add_comm, ← List.drop_drop, List.drop_left, group]

/-- A run of groups that is not empty starts with one. -/
theorem exists_group {size count : Nat} {bytes : Bytes}
    (length : bytes.length = size * (count + 1)) :
    ∃ own rest, bytes = own ++ rest ∧ own.length = size ∧ rest.length = size * count := by
  rw [Nat.mul_succ] at length
  refine ⟨bytes.take size, bytes.drop size, (List.take_append_drop size bytes).symm, ?_, ?_⟩
  · rw [List.length_take, length]
    omega
  · rw [List.length_drop, length]
    omega

/-- In a run of elements of one size, each has a group of its own. -/
theorem group_flatMap {α : Type} {write : α → Bytes} {size : Nat}
    (each : ∀ element, (write element).length = size) {elements : List α} {i : Nat} {element : α}
    (found : elements[i]? = some element) :
    group size i (elements.flatMap write) = write element := by
  induction elements generalizing i with
  | nil => cases found
  | cons first rest ih =>
      rw [List.flatMap_cons, ← each first]
      cases i with
      | zero =>
          cases found
          exact group_zero _ _
      | succ i =>
          have later := ih found
          rw [← each first] at later
          exact (group_succ _ _ i).trans later

end Bytes

end ScenePlayer
