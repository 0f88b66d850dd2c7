import ScenePlayer.Settings.Literal

/-!
Literals and the numbers that they denote. The grammar (`IsLiteral`) stands beside the reader: a
text is read as a number if and only if it is a literal for it below the bound
(`literal_eq_some_iff`). The reader goes from the first digit to the last and carries the value so
far; `readDigits_eq_some_iff` says this for every value to start with. The decimal digits of a
number are one of its numerals (`isNumeral_toDigits`), so a number written in decimal is a literal
for it (`isLiteral_toString`).
-/

namespace ScenePlayer

/-- One decimal digit or more of a given value. Zeros may stand in front. -/
structure IsNumeral (digits : List Char) (n : Nat) : Prop where
  nonempty : digits ≠ []
  isDigit : ∀ c ∈ digits, c.isDigit = true
  value : Nat.ofDigitChars 10 digits 0 = n

/-- A literal for a number below `bound`: a numeral, or a numeral behind one plus sign. -/
structure IsLiteral (bound : Nat) (text : List Char) (n : Nat) : Prop where
  signed : IsNumeral text n ∨ ∃ digits, text = '+' :: digits ∧ IsNumeral digits n
  small : n < bound

variable {bound n sofar : Nat} {text : List Char} {c : Char}

/-! ### Reading -/

theorem digitValue_eq_some_iff {digit : Nat} :
    digitValue c = some digit ↔ c.isDigit = true ∧ c.toNat - '0'.toNat = digit := by
  have range : '0' ≤ c ∧ c ≤ '9' ↔ c.isDigit = true := by
    rw [Char.isDigit_iff_toNat]
    rfl
  unfold digitValue
  split
  · rename_i inside
    simp [range.1 inside]
  · rename_i outside
    simp [mt range.2 outside]

theorem readDigits_eq_some_iff :
    readDigits sofar text = some n ↔
      (∀ c ∈ text, c.isDigit = true) ∧ Nat.ofDigitChars 10 text sofar = n := by
  induction text generalizing sofar with
  | nil => simp [readDigits]
  | cons c rest ih =>
      simp only [readDigits, Option.bind_eq_some_iff, digitValue_eq_some_iff, ih,
        List.forall_mem_cons, Nat.ofDigitChars_cons]
      constructor
      · rintro ⟨digit, ⟨first, rfl⟩, others, value⟩
        exact ⟨⟨first, others⟩, value⟩
      · rintro ⟨⟨first, others⟩, value⟩
        exact ⟨_, ⟨first, rfl⟩, others, value⟩

theorem isNumeral_iff_readDigits :
    IsNumeral text n ↔ text ≠ [] ∧ readDigits 0 text = some n := by
  rw [readDigits_eq_some_iff]
  exact ⟨fun ⟨nonempty, digits, value⟩ => ⟨nonempty, digits, value⟩,
    fun ⟨nonempty, digits, value⟩ => ⟨nonempty, digits, value⟩⟩

/-- No digit is a plus sign, so a literal has one reading only: its sign goes first. -/
theorem isNumeral_dropPlus :
    IsNumeral (dropPlus text) n ↔
      IsNumeral text n ∨ ∃ digits, text = '+' :: digits ∧ IsNumeral digits n := by
  unfold dropPlus
  split
  · rename_i rest
    refine ⟨fun numeral => .inr ⟨rest, rfl, numeral⟩, ?_⟩
    rintro (numeral | ⟨digits, same, numeral⟩)
    · exact absurd (numeral.isDigit '+' List.mem_cons_self) (by decide)
    · cases same
      exact numeral
  · rename_i unsigned
    refine ⟨.inl, ?_⟩
    rintro (numeral | ⟨digits, rfl, -⟩)
    · exact numeral
    · exact absurd rfl (unsigned digits)

theorem literal_eq_some_iff : literal bound text = some n ↔ IsLiteral bound text n := by
  have read : literal bound text = some n ↔ IsNumeral (dropPlus text) n ∧ n < bound := by
    rw [isNumeral_iff_readDigits]
    unfold literal
    split
    · rename_i empty
      simp [empty]
    · rename_i nonempty
      simp only [Option.bind_eq_some_iff]
      constructor
      · rintro ⟨m, value, small⟩
        split at small
        · cases small
          exact ⟨⟨nonempty, value⟩, ‹_›⟩
        · cases small
      · rintro ⟨⟨-, value⟩, small⟩
        exact ⟨n, value, if_pos small⟩
  rw [read, isNumeral_dropPlus]
  exact ⟨fun ⟨signed, small⟩ => ⟨signed, small⟩, fun ⟨signed, small⟩ => ⟨signed, small⟩⟩

/-- A literal is made of digits and plus signs. -/
theorem IsLiteral.mem (isLiteral : IsLiteral bound text n) (member : c ∈ text) :
    c = '+' ∨ c.isDigit = true := by
  rcases isLiteral.signed with numeral | ⟨digits, rfl, numeral⟩
  · exact .inr (numeral.isDigit c member)
  · rcases List.mem_cons.1 member with first | later
    · exact .inl first
    · exact .inr (numeral.isDigit c later)

/-! ### Writing -/

theorem isNumeral_toDigits (n : Nat) : IsNumeral (Nat.toDigits 10 n) n where
  nonempty := Nat.toDigits_ne_nil
  isDigit _ := Nat.isDigit_of_mem_toDigits (by decide) (by decide)
  value := Nat.ofDigitChars_ten_toDigits

theorem isLiteral_toString (small : n < bound) : IsLiteral bound (toString n).toList n where
  signed := by
    rw [Nat.toString_eq_repr, Nat.toList_repr]
    exact .inl (isNumeral_toDigits n)
  small := small

end ScenePlayer
