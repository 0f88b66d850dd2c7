import ScenePlayer.Settings.Basic

/-!
Usable ranges of settings (`Settings.IsUsable`). Clamping brings any settings into them and leaves
usable ones alone (`Settings.clamped_eq_iff`). Whatever makes settings clamps them last, so all
settings made in code, from the environment or from a document are usable.
-/

namespace ScenePlayer

namespace Settings

/-- A side that a viewport can have. -/
def IsSide (n : Nat) : Prop := 1 ≤ n ∧ n ≤ longestSide

/-- All settings are in their ranges. Every colour is in range. -/
structure IsUsable (settings : Settings) : Prop where
  width : IsSide settings.viewportWidth
  height : IsSide settings.viewportHeight
  frameInterval : 1 ≤ settings.frameInterval
  depthLimit : 1 ≤ settings.depthLimit
  idleFrames : 1 ≤ settings.idleFrames
  threadName : settings.threadName ≠ ""

variable {settings : Settings}

theorem isSide_between (n : Nat) : IsSide (between 1 longestSide n) :=
  ⟨Nat.le_max_left .., Nat.max_le.mpr ⟨by decide, Nat.min_le_right ..⟩⟩

theorem between_of_isSide {n : Nat} (side : IsSide n) : between 1 longestSide n = n := by
  rw [between, Nat.min_eq_left side.2, Nat.max_eq_right side.1]

theorem isUsable_clamped (settings : Settings) : settings.clamped.IsUsable where
  width := isSide_between _
  height := isSide_between _
  frameInterval := Nat.le_max_right ..
  depthLimit := Nat.le_max_right ..
  idleFrames := Nat.le_max_right ..
  threadName := by
    unfold clamped
    dsimp only
    split
    · decide
    · rename_i named
      rwa [String.isEmpty_iff] at named

theorem IsUsable.clamped_eq (usable : settings.IsUsable) : settings.clamped = settings := by
  obtain ⟨width, height, frameInterval, depthLimit, idleFrames, threadName⟩ := usable
  have named : settings.threadName.isEmpty = false := by
    rwa [Bool.eq_false_iff, ne_eq, String.isEmpty_iff]
  simp only [clamped, between_of_isSide width, between_of_isSide height,
    Nat.max_eq_left frameInterval, Nat.max_eq_left depthLimit, Nat.max_eq_left idleFrames, named,
    Bool.false_eq_true, if_false]

/-- Clamping changes just the settings that are not usable. -/
theorem clamped_eq_iff : settings.clamped = settings ↔ settings.IsUsable :=
  ⟨fun kept => kept ▸ settings.isUsable_clamped, IsUsable.clamped_eq⟩

/-! ### Makers -/

theorem isUsable_ofViewport (width height interval : Nat) :
    (ofViewport width height interval).IsUsable :=
  isUsable_clamped _

theorem isUsable_ofEnvironment (lookup : String → Option String) :
    (ofEnvironment lookup).IsUsable :=
  isUsable_clamped _

theorem isUsable_ofDocument {read : DocumentReader} {text : String}
    (made : ofDocument read text = some settings) : settings.IsUsable := by
  simp only [ofDocument, Option.bind_eq_bind, Option.bind_eq_some_iff] at made
  obtain ⟨document, -, made⟩ := made
  split at made
  · simp only [Option.pure_def, Option.bind_eq_some_iff, Option.some.injEq] at made
    obtain ⟨given, -, rfl⟩ := made
    exact given.isUsable_clamped
  · simp only [Option.pure_def, Option.bind_eq_some_iff, Option.some.injEq] at made
    obtain ⟨given, -, rfl⟩ := made
    exact given.isUsable_clamped
  · cases made

end Settings

end ScenePlayer
