import Mathlib.Data.List.TakeWhile
import ScenePlayer.Text.Blank
import ScenePlayer.Text.Pieces

/-!
Texts taken apart. A text is split at its first separator and at no other
(`splitFirst_eq_some_iff`); its pieces are those of the library's `List.splitOn`
(`pieces_eq_splitOn`). Trimming takes away nothing but blanks from the ends (`exists_trimBlanks`),
and does not see how many there were (`trimBlanks_append`). So what trimming leaves has a property
that excludes blanks if and only if the whole is such a text with blanks around it (`padded_iff`).
-/

namespace ScenePlayer

variable {text before after : List Char} {c : Char}

/-! ### Separators -/

theorem splitFirst_eq_some_iff {isSeparator : Char → Bool} :
    splitFirst isSeparator text = some (before, after) ↔
      ∃ separator, isSeparator separator = true ∧ (∀ c ∈ before, isSeparator c = false) ∧
        text = before ++ separator :: after := by
  induction text generalizing before with
  | nil => simp [splitFirst]
  | cons c rest ih =>
      rw [splitFirst]
      split
      · rename_i found
        constructor
        · rintro ⟨⟩
          exact ⟨c, found, nofun, rfl⟩
        · rintro ⟨separator, -, none, whole⟩
          cases before with
          | nil =>
              cases whole
              rfl
          | cons first before =>
              cases whole
              exact absurd found (Bool.eq_false_iff.1 (none c List.mem_cons_self))
      · rename_i other
        rw [Option.map_eq_some_iff]
        constructor
        · rintro ⟨⟨left, right⟩, split, same⟩
          cases same
          obtain ⟨separator, found, none, rfl⟩ := ih.1 split
          exact ⟨separator, found, List.forall_mem_cons.2 ⟨Bool.eq_false_iff.2 other, none⟩, rfl⟩
        · rintro ⟨separator, found, none, whole⟩
          cases before with
          | nil =>
              cases whole
              exact absurd found other
          | cons first before =>
              cases whole
              exact ⟨(before, after),
                ih.2 ⟨separator, found, (List.forall_mem_cons.1 none).2, rfl⟩, rfl⟩

theorem splitFirst_eq_none_iff {isSeparator : Char → Bool} :
    splitFirst isSeparator text = none ↔ ∀ c ∈ text, isSeparator c = false := by
  induction text with
  | nil => simp [splitFirst]
  | cons c rest ih =>
      rw [splitFirst, List.forall_mem_cons]
      split
      · rename_i found
        simp [found]
      · rename_i other
        rw [Option.map_eq_none_iff, ih]
        exact (and_iff_right (Bool.eq_false_iff.2 other)).symm

theorem pieces_eq_splitOn (separator : Char) (text : List Char) :
    pieces separator text = text.splitOn separator := by
  induction text with
  | nil => exact (List.splitOn_nil separator).symm
  | cons c rest ih =>
      rw [pieces, List.splitOn_cons_eq_if_modifyHead, ih]
      simp only [beq_iff_eq]
      split
      · rfl
      · -- There is a first piece to extend.
        obtain ⟨piece, others, split⟩ :=
          List.exists_cons_of_ne_nil (List.splitOn_ne_nil separator rest)
        rw [split]
        rfl

/-! ### Blanks -/

/-- There is nothing but blanks. -/
def Blank (text : List Char) : Prop := ∀ c ∈ text, isBlank c = true

/-- Blanks around a text with some property. -/
def Padded (holds : List Char → Prop) (text : List Char) : Prop :=
  ∃ before inner after, text = before ++ inner ++ after ∧ Blank before ∧ Blank after ∧ holds inner

theorem exists_trimBlanks (text : List Char) :
    ∃ before after, text = before ++ trimBlanks text ++ after ∧ Blank before ∧ Blank after := by
  refine ⟨text.takeWhile isBlank, ((text.dropWhile isBlank).reverse.takeWhile isBlank).reverse,
    ?_, fun c => List.mem_takeWhile_imp, fun c member => ?_⟩
  · rw [trimBlanks, List.append_assoc, ← List.reverse_append, List.takeWhile_append_dropWhile,
      List.reverse_reverse, List.takeWhile_append_dropWhile]
  · exact List.mem_takeWhile_imp (List.mem_reverse.1 member)

theorem trimBlanks_append (front : Blank before) (back : Blank after) :
    trimBlanks (before ++ text ++ after) = trimBlanks text := by
  have behind : ∀ c ∈ after.reverse, isBlank c = true := fun c member =>
    back c (List.mem_reverse.1 member)
  rw [trimBlanks, trimBlanks, List.append_assoc, List.dropWhile_append_of_pos front,
    List.dropWhile_append]
  split
  · rename_i empty
    rw [List.isEmpty_iff.1 empty, List.dropWhile_eq_nil_iff.2 back]
  · rw [List.reverse_append, List.dropWhile_append_of_pos behind]

theorem trimBlanks_of_solid (solid : ∀ c ∈ text, isBlank c = false) : trimBlanks text = text := by
  have front : text.dropWhile isBlank = text :=
    List.dropWhile_eq_self_iff.2 fun _ => Bool.eq_false_iff.1 (solid _ (List.getElem_mem _))
  have back : text.reverse.dropWhile isBlank = text.reverse :=
    List.dropWhile_eq_self_iff.2 fun _ =>
      Bool.eq_false_iff.1 (solid _ (List.mem_reverse.1 (List.getElem_mem _)))
  rw [trimBlanks, front, back, List.reverse_reverse]

/-- Trimming finds the text inside the blanks, if it has no blanks itself. -/
theorem padded_iff {holds : List Char → Prop}
    (solid : ∀ inner, holds inner → ∀ c ∈ inner, isBlank c = false) :
    Padded holds text ↔ holds (trimBlanks text) := by
  constructor
  · rintro ⟨before, inner, after, rfl, front, back, inside⟩
    rwa [trimBlanks_append front back, trimBlanks_of_solid (solid inner inside)]
  · intro inside
    obtain ⟨before, after, whole, front, back⟩ := exists_trimBlanks text
    exact ⟨before, _, after, whole, front, back, inside⟩

/-- Where both halves are trimmed, it makes no difference whether the whole was trimmed before. -/
theorem splitFirst_trimBlanks {isSeparator : Char → Bool}
    (solid : ∀ c, isBlank c = true → isSeparator c = false) (text : List Char) :
    (splitFirst isSeparator (trimBlanks text)).map (Prod.map trimBlanks trimBlanks) =
      (splitFirst isSeparator text).map (Prod.map trimBlanks trimBlanks) := by
  obtain ⟨before, after, whole, front, back⟩ := exists_trimBlanks text
  generalize trimBlanks text = inner at whole
  subst whole
  have nothing : Blank [] := nofun
  have outside : ∀ {c}, c ∈ before ∨ c ∈ after → isSeparator c = false := fun member =>
    solid _ (member.elim (front _) (back _))
  cases split : splitFirst isSeparator inner with
  | none =>
      have none := splitFirst_eq_none_iff.1 split
      have whole : splitFirst isSeparator (before ++ inner ++ after) = Option.none := by
        refine splitFirst_eq_none_iff.2 fun c member => ?_
        simp only [List.mem_append] at member
        rcases member with (early | inside) | late
        · exact outside (.inl early)
        · exact none c inside
        · exact outside (.inr late)
      rw [whole]
  | some halves =>
      obtain ⟨left, right⟩ := halves
      obtain ⟨separator, found, none, rfl⟩ := splitFirst_eq_some_iff.1 split
      have whole : splitFirst isSeparator (before ++ (left ++ separator :: right) ++ after) =
          some (before ++ left, right ++ after) := by
        refine splitFirst_eq_some_iff.2 ⟨separator, found, ?_, by simp⟩
        intro c member
        rcases List.mem_append.1 member with early | inside
        · exact outside (.inl early)
        · exact none c inside
      have trimLeft : trimBlanks (before ++ left) = trimBlanks left := by
        rw [← List.append_nil (before ++ left), trimBlanks_append front nothing]
      have trimRight : trimBlanks (right ++ after) = trimBlanks right :=
        trimBlanks_append nothing back
      rw [whole, Option.map_some, Option.map_some, Prod.map_apply, Prod.map_apply, trimLeft,
        trimRight]

end ScenePlayer
