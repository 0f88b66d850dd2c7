import Mathlib.Data.List.Forall2
import ScenePlayer.Proofs.Text.Numerals
import ScenePlayer.Proofs.Text.Pieces

/-!
Sizes and colours as texts. The grammars (`IsSize`, `IsColour`) say what is written and what it
denotes, and the readers accept just that (`size_and_colour_grammar`). Nothing that a literal is
made of is a blank, a letter or a comma (`IsLiteral.plain`); therefore a text has at most one place
at which it can be taken apart, and it does not matter that the readers trim before they split and
again afterwards.
-/

namespace ScenePlayer

/-- A literal with blanks around it. -/
def IsPaddedLiteral (bound : Nat) (text : List Char) (n : Nat) : Prop :=
  Padded (fun inner => IsLiteral bound inner n) text

/-- Two literals with one letter `x` between them, and blanks around each. -/
def IsSize (text : List Char) (size : Nat × Nat) : Prop :=
  ∃ left separator right, text = left ++ separator :: right ∧
    (separator = 'x' ∨ separator = 'X') ∧
    IsPaddedLiteral UInt32.size left size.1 ∧ IsPaddedLiteral UInt32.size right size.2

/-- Three or four literals for bytes with commas between them, and blanks around each. A colour with
three is opaque. -/
def IsColour (text : List Char) (colour : Colour) : Prop :=
  ∃ channels : List UInt8,
    List.Forall₂ (fun piece channel => IsPaddedLiteral UInt8.size piece channel.toNat)
      (text.splitOn ',') channels ∧
    (channels = [colour.red, colour.green, colour.blue] ∧ colour.alpha = 255 ∨
      channels = [colour.red, colour.green, colour.blue, colour.alpha])

variable {bound n : Nat} {text : List Char} {c : Char}

/-! ### Literals with blanks -/

theorem isBlank_iff : isBlank c = true ↔
    ∃ range ∈ blankRanges, range.1 ≤ c.toNat ∧ c.toNat ≤ range.2 := by
  simp [isBlank]

/-- The characters of literals lie between the space and the letters, and none is a comma. -/
theorem IsLiteral.plain (isLiteral : IsLiteral bound text n) (member : c ∈ text) :
    ' '.toNat < c.toNat ∧ c.toNat < 'A'.toNat ∧ c ≠ ',' := by
  rcases isLiteral.mem member with rfl | digit
  · decide
  · obtain ⟨low, high⟩ := Char.isDigit_iff_toNat.1 digit
    refine ⟨lt_of_lt_of_le (by decide) low, lt_of_le_of_lt high (by decide), ?_⟩
    rintro rfl
    exact absurd low (by decide)

theorem IsLiteral.solid (isLiteral : IsLiteral bound text n) (member : c ∈ text) :
    isBlank c = false := by
  obtain ⟨low, high, -⟩ := isLiteral.plain member
  refine Bool.eq_false_iff.2 fun blank => ?_
  obtain ⟨range, listed, inside⟩ := isBlank_iff.1 blank
  simp only [blankRanges, List.mem_cons, List.not_mem_nil, or_false] at listed
  have space : ' '.toNat = 32 := rfl
  have letter : 'A'.toNat = 65 := rfl
  rcases listed with rfl | rfl | rfl | rfl | rfl | rfl | rfl | rfl | rfl | rfl <;> omega

theorem paddedLiteral_eq_some_iff :
    paddedLiteral bound text = some n ↔ IsPaddedLiteral bound text n := by
  rw [paddedLiteral, literal_eq_some_iff]
  exact (padded_iff fun inner (isLiteral : IsLiteral bound inner n) _ => isLiteral.solid).symm

/-- What stands in a padded literal is a blank, or it can stand in a literal. -/
theorem IsPaddedLiteral.mem (padded : IsPaddedLiteral bound text n) (member : c ∈ text) :
    isBlank c = true ∨ ' '.toNat < c.toNat ∧ c.toNat < 'A'.toNat ∧ c ≠ ',' := by
  obtain ⟨before, inner, after, rfl, front, back, isLiteral⟩ := padded
  simp only [List.mem_append] at member
  rcases member with (early | inside) | late
  · exact .inl (front c early)
  · exact .inr (isLiteral.plain inside)
  · exact .inl (back c late)

/-! ### Sizes -/

/-- Whether a letter stands between the sides of a size. -/
def isCross (c : Char) : Bool := c == 'x' || c == 'X'

theorem isCross_iff : isCross c = true ↔ c = 'x' ∨ c = 'X' := by
  simp [isCross]

theorem isCross_of_isBlank (c : Char) (blank : isBlank c = true) : isCross c = false := by
  refine Bool.eq_false_iff.2 fun cross => ?_
  rcases isCross_iff.1 cross with rfl | rfl
  · exact absurd blank (by decide)
  · exact absurd blank (by decide)

/-- No letter is a blank, so trimming before the split makes no difference. -/
theorem viewportLiteral_eq_some_iff_halves {text : String} {size : Nat × Nat} :
    viewportLiteral text = some size ↔
      ∃ left right, splitFirst isCross text.toList = some (left, right) ∧
        paddedLiteral UInt32.size left = some size.1 ∧
        paddedLiteral UInt32.size right = some size.2 := by
  have trimmed : viewportLiteral text = some size ↔
      ∃ halves, (splitFirst isCross (trimBlanks text.toList)).map (Prod.map trimBlanks trimBlanks) =
          some halves ∧
        literal UInt32.size halves.1 = some size.1 ∧
        literal UInt32.size halves.2 = some size.2 := by
    obtain ⟨width, height⟩ := size
    simp only [viewportLiteral, paddedLiteral, Option.bind_eq_bind, Option.bind_eq_some_iff,
      Option.pure_def, Option.some.injEq, Option.map_eq_some_iff, Prod.mk.injEq]
    constructor
    · rintro ⟨halves, split, _, width, _, height, rfl, rfl⟩
      exact ⟨_, ⟨halves, split, rfl⟩, width, height⟩
    · rintro ⟨_, ⟨halves, split, rfl⟩, width, height⟩
      exact ⟨halves, split, _, width, _, height, rfl, rfl⟩
  rw [trimmed, splitFirst_trimBlanks isCross_of_isBlank]
  simp only [Option.map_eq_some_iff]
  constructor
  · rintro ⟨_, ⟨⟨left, right⟩, split, rfl⟩, width, height⟩
    exact ⟨left, right, split, width, height⟩
  · rintro ⟨left, right, split, width, height⟩
    exact ⟨_, ⟨(left, right), split, rfl⟩, width, height⟩

theorem viewportLiteral_eq_some_iff {text : String} {size : Nat × Nat} :
    viewportLiteral text = some size ↔ IsSize text.toList size := by
  simp only [viewportLiteral_eq_some_iff_halves, paddedLiteral_eq_some_iff, splitFirst_eq_some_iff,
    isCross_iff]
  constructor
  · rintro ⟨left, right, ⟨separator, cross, -, whole⟩, width, height⟩
    exact ⟨left, separator, right, whole, cross, width, height⟩
  · rintro ⟨left, separator, right, whole, cross, width, height⟩
    refine ⟨left, right, ⟨separator, cross, fun c member => ?_, whole⟩, width, height⟩
    -- No letter stands in the width, so the first one is the separator.
    rcases width.mem member with blank | ⟨-, small, -⟩
    · exact isCross_of_isBlank c blank
    · refine Bool.eq_false_iff.2 fun letter => ?_
      rcases isCross_iff.1 letter with rfl | rfl
      · exact absurd small (by decide)
      · exact absurd small (by decide)

/-! ### Colours -/

theorem mapM_eq_some_iff {α β : Type} {read : α → Option β} {texts : List α} {values : List β} :
    texts.mapM read = some values ↔
      List.Forall₂ (fun text value => read text = some value) texts values := by
  induction texts generalizing values with
  | nil => simp [eq_comm]
  | cons text texts ih =>
      simp only [List.mapM_cons, Option.pure_def, Option.bind_eq_bind, Option.bind_eq_some_iff,
        Option.some.injEq, List.forall₂_cons_left_iff, ih]
      constructor
      · rintro ⟨value, first, others, rest, rfl⟩
        exact ⟨value, others, first, rest, rfl⟩
      · rintro ⟨value, others, first, rest, rfl⟩
        exact ⟨value, first, others, rest, rfl⟩

theorem ofChannels_eq_some_iff {channels : List UInt8} {colour : Colour} :
    Colour.ofChannels channels = some colour ↔
      channels = [colour.red, colour.green, colour.blue] ∧ colour.alpha = 255 ∨
        channels = [colour.red, colour.green, colour.blue, colour.alpha] := by
  obtain ⟨red, green, blue, alpha⟩ := colour
  unfold Colour.ofChannels
  split
  · simp [eq_comm, and_assoc]
  · simp [eq_comm]
  · rename_i three four
    refine iff_of_false nofun ?_
    rintro (⟨same, -⟩ | same)
    · exact three _ _ _ same
    · exact four _ _ _ _ same

theorem colourLiteral_eq_some_iff {text : String} {colour : Colour} :
    colourLiteral text = some colour ↔ IsColour text.toList colour := by
  simp only [colourLiteral, Option.bind_eq_bind, Option.bind_eq_some_iff, mapM_eq_some_iff,
    pieces_eq_splitOn, paddedLiteral_eq_some_iff, ofChannels_eq_some_iff]
  constructor
  · rintro ⟨numbers, read, denotes⟩
    refine ⟨numbers.map UInt8.ofNat, ?_, denotes⟩
    rw [List.forall₂_map_right_iff]
    refine read.imp fun piece number padded => ?_
    have small : number < UInt8.size := by
      obtain ⟨_, _, _, -, -, -, isLiteral⟩ := padded
      exact isLiteral.small
    rwa [UInt8.toNat_ofNat_of_lt' small]
  · rintro ⟨channels, read, denotes⟩
    refine ⟨channels.map UInt8.toNat, ?_, ?_⟩
    · rwa [List.forall₂_map_right_iff]
    · have same : (channels.map UInt8.toNat).map UInt8.ofNat = channels := by
        rw [List.map_map]
        exact (List.map_congr_left fun _ _ => UInt8.ofNat_toNat).trans (List.map_id channels)
      rwa [same]

/-- **Sizes and colours are what the grammar says, no more and no less.** A text is read as a size
if and only if it is two literals for 32-bit words with one letter `x` between them, small or
capital, and as a colour if and only if its pieces between commas are three or four literals for
bytes, the fourth one for the alpha, which is full otherwise. Blanks may stand around each literal
and nowhere else; a literal is one digit or more behind at most one plus sign. -/
theorem size_and_colour_grammar (text : String) :
    (∀ size, viewportLiteral text = some size ↔ IsSize text.toList size) ∧
      ∀ colour, colourLiteral text = some colour ↔ IsColour text.toList colour :=
  ⟨fun _ => viewportLiteral_eq_some_iff, fun _ => colourLiteral_eq_some_iff⟩

/-- Sizes and colours at the borders of the grammar. -/
example :
    viewportLiteral " +007 X\t4294967295 " = some (7, 4294967295) ∧
      viewportLiteral "1x2x3" = none ∧ viewportLiteral "1x4294967296" = none ∧
      viewportLiteral "1 0x2" = none ∧ viewportLiteral "x2" = none ∧
      colourLiteral "1, +2 ,003" = some ⟨1, 2, 3, 255⟩ ∧ colourLiteral "1,2,3,256" = none ∧
      colourLiteral "1,2,,3" = none := by
  decide

end ScenePlayer
