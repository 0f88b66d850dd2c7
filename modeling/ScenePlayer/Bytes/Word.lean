/-!
Big-endian words in byte lists. Writing and reading are inverse
(`join16_word16`, `word16_join16` and their 32-bit twins), and the length of
a list is asked for only as far as a record needs it (`holds`).
-/

namespace ScenePlayer

/-- A buffer of bytes, first byte first. -/
abbrev Bytes : Type := List UInt8

namespace Bytes

/-- The two bytes of a 16-bit word, high byte first. -/
def word16 (w : UInt16) : Bytes := [UInt8.ofNat (w.toNat >>> 8), UInt8.ofNat w.toNat]

/-- The four bytes of a 32-bit word, high byte first. -/
def word32 (w : UInt32) : Bytes :=
  [UInt8.ofNat (w.toNat >>> 24), UInt8.ofNat (w.toNat >>> 16), UInt8.ofNat (w.toNat >>> 8),
    UInt8.ofNat w.toNat]

def join16 (a b : UInt8) : UInt16 := UInt16.ofNat (a.toNat <<< 8 + b.toNat)

def join32 (a b c d : UInt8) : UInt32 :=
  UInt32.ofNat (a.toNat <<< 24 + b.toNat <<< 16 + c.toNat <<< 8 + d.toNat)

/-- The 16-bit word at the front; 0 if the bytes end before it does. -/
def front16 : Bytes → UInt16
  | a :: b :: _ => join16 a b
  | _ => 0

/-- The 32-bit word at the front; 0 if the bytes end before it does. -/
def front32 : Bytes → UInt32
  | a :: b :: c :: d :: _ => join32 a b c d
  | _ => 0

/-- The whole 32-bit words of a buffer. -/
def words : Bytes → List UInt32
  | a :: b :: c :: d :: rest => join32 a b c d :: words rest
  | _ => []

/-- Whether there are at least `count` elements. -/
def holds {α : Type} : Nat → List α → Bool
  | 0, _ => true
  | _ + 1, [] => false
  | count + 1, _ :: rest => holds count rest

@[simp] theorem holds_iff {α : Type} (count : Nat) (elements : List α) :
    holds count elements = true ↔ count ≤ elements.length := by
  induction count generalizing elements with
  | zero => simp [holds]
  | succ count ih => cases elements <;> simp [holds, ih]

theorem join16_word16 (w : UInt16) :
    join16 (UInt8.ofNat (w.toNat >>> 8)) (UInt8.ofNat w.toNat) = w := by
  apply UInt16.toNat_inj.1
  have bound := w.toNat_lt
  simp only [join16, UInt8.toNat_ofNat', UInt16.toNat_ofNat']
  omega

theorem join32_word32 (w : UInt32) :
    join32 (UInt8.ofNat (w.toNat >>> 24)) (UInt8.ofNat (w.toNat >>> 16))
      (UInt8.ofNat (w.toNat >>> 8)) (UInt8.ofNat w.toNat) = w := by
  apply UInt32.toNat_inj.1
  have bound := w.toNat_lt
  simp only [join32, UInt8.toNat_ofNat', UInt32.toNat_ofNat']
  omega

@[simp] theorem front16_word16 (w : UInt16) (rest : Bytes) : front16 (word16 w ++ rest) = w :=
  join16_word16 w

@[simp] theorem front32_word32 (w : UInt32) (rest : Bytes) : front32 (word32 w ++ rest) = w :=
  join32_word32 w

theorem word16_join16 (a b : UInt8) : word16 (join16 a b) = [a, b] := by
  have ha := a.toNat_lt
  have hb := b.toNat_lt
  simp only [word16, join16, UInt16.toNat_ofNat', List.cons.injEq, and_true]
  constructor <;> apply UInt8.toNat_inj.1 <;> simp only [UInt8.toNat_ofNat'] <;> omega

theorem word32_join32 (a b c d : UInt8) : word32 (join32 a b c d) = [a, b, c, d] := by
  have ha := a.toNat_lt
  have hb := b.toNat_lt
  have hc := c.toNat_lt
  have hd := d.toNat_lt
  simp only [word32, join32, UInt32.toNat_ofNat', List.cons.injEq, and_true]
  refine ⟨?_, ?_, ?_, ?_⟩ <;> apply UInt8.toNat_inj.1 <;> simp only [UInt8.toNat_ofNat'] <;> omega

end Bytes

end ScenePlayer
