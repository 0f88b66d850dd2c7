import Mathlib.Tactic.Common
import ScenePlayer.Cli.Render
import ScenePlayer.Proofs.Settings.Ranges

/-!
How far a run gets, and the settings that it starts the player with. A run starts the player if its
arguments can be read, name an output and a script, and its settings can be made (`Render.Starts`);
whatever it returns then comes from the player, and a run that does not start ends in one of the
errors met before (`Render.started_or_stopped`).

The settings come from a config file or the environment, in usable ranges either way. A size and a
colour given as arguments replace theirs afterwards. The colour does no harm; the size is any pair
of 32-bit words, so the viewport is usable if and only if the size is (`Render.settings_at_start`).
-/

namespace ScenePlayer

/-- Errors that are met before a player is started. -/
def RenderError.isEarly : RenderError → Bool
  | .arguments _ | .noOutput | .noScripts | .readConfig _ _ | .parseConfig _ => true
  | _ => false

namespace Render

variable {σ S : Type} {reader : DocumentReader} {words : List String}
  {environment : String → Option String} {folder : Folder} {arguments : Arguments}
  {path : String} {chosen : Settings}

/-- A run starts a player with settings, to write its frame to a path. -/
structure Starts (reader : DocumentReader) (words : List String)
    (environment : String → Option String) (folder : Folder) (arguments : Arguments)
    (path : String) (chosen : Settings) : Prop where
  parsed : Arguments.parse words = .ok arguments
  out : arguments.out = some path
  scripts : arguments.scripts.isEmpty = false
  made : settings reader arguments environment folder = .ok chosen

/-- What a run returns that has started a player is up to the player. -/
theorem Starts.run_eq (backend : Backend σ S)
    (starts : Starts backend.reader words environment folder arguments path chosen) :
    run backend words environment folder = (do
      let player ← (Player.create backend.screen chosen).mapError .start
      return ⟨path, ← play backend arguments folder player⟩) := by
  obtain ⟨parsed, out, scripts, made⟩ := starts
  unfold run
  rw [parsed]
  simp only [Except.mapError, bind, Except.bind, out, scripts, made]
  rfl

/-! ### Settings -/

/-- A config file or the environment gives usable settings, and a config file may give an error. -/
theorem baseSettings_cases (reader : DocumentReader) (arguments : Arguments)
    (environment : String → Option String) (folder : Folder) :
    (∃ base, baseSettings reader arguments environment folder = .ok base ∧ base.IsUsable) ∨
      ∃ error, baseSettings reader arguments environment folder = .error error ∧
        error.isEarly = true := by
  unfold baseSettings
  cases arguments.config with
  | none => exact .inl ⟨_, rfl, Settings.isUsable_ofEnvironment environment⟩
  | some path =>
      dsimp only
      cases folder.readText path with
      | error reason => exact .inr ⟨_, rfl, rfl⟩
      | ok text =>
          dsimp only [Except.mapError, bind, Except.bind]
          cases read : Settings.ofDocument reader text with
          | none => exact .inr ⟨_, rfl, rfl⟩
          | some base => exact .inl ⟨base, rfl, Settings.isUsable_ofDocument read⟩

/-- Settings with the size and the colour of arguments in place of theirs. -/
def override (arguments : Arguments) (base : Settings) : Settings :=
  { base with
    viewportWidth := (arguments.size.getD (base.viewportWidth, base.viewportHeight)).1
    viewportHeight := (arguments.size.getD (base.viewportWidth, base.viewportHeight)).2
    clearColour := arguments.clear.getD base.clearColour }

/-- The settings of a run are usable ones, overridden. -/
theorem settings_cases (reader : DocumentReader) (arguments : Arguments)
    (environment : String → Option String) (folder : Folder) :
    (∃ base, settings reader arguments environment folder = .ok (override arguments base) ∧
        base.IsUsable) ∨
      ∃ error, settings reader arguments environment folder = .error error ∧
        error.isEarly = true := by
  unfold settings
  rcases baseSettings_cases reader arguments environment folder with
    ⟨base, made, usable⟩ | ⟨error, failed, early⟩
  · rw [made]
    exact .inl ⟨base, rfl, usable⟩
  · rw [failed]
    exact .inr ⟨error, rfl, early⟩

/-- A size given as an argument is the size of the viewport, in range or not. -/
theorem isUsable_override_iff {base : Settings} (usable : base.IsUsable) :
    (override arguments base).IsUsable ↔
      ∀ size, arguments.size = some size → Settings.IsSide size.1 ∧ Settings.IsSide size.2 := by
  obtain ⟨width, height, frameInterval, depthLimit, idleFrames, threadName⟩ := usable
  cases given : arguments.size with
  | none =>
      refine iff_of_true ⟨?_, ?_, frameInterval, depthLimit, idleFrames, threadName⟩ nofun
      · rwa [override, given]
      · rwa [override, given]
  | some size =>
      constructor
      · rintro ⟨width, height, -, -, -, -⟩ size' same
        cases same
        rw [override, given] at width height
        exact ⟨width, height⟩
      · intro sides
        obtain ⟨width, height⟩ := sides size rfl
        refine ⟨?_, ?_, frameInterval, depthLimit, idleFrames, threadName⟩
        · rwa [override, given]
        · rwa [override, given]

/-! ### Runs -/

/-- A run starts a player, or it ends in an error that is met before. -/
theorem started_or_stopped (backend : Backend σ S) (words : List String)
    (environment : String → Option String) (folder : Folder) :
    (∃ arguments path chosen,
      Starts backend.reader words environment folder arguments path chosen) ∨
      ∃ error, run backend words environment folder = .error error ∧ error.isEarly = true := by
  unfold run
  cases parsed : Arguments.parse words with
  | error reason => exact .inr ⟨_, rfl, rfl⟩
  | ok arguments =>
      dsimp only [Except.mapError, bind, Except.bind]
      cases out : arguments.out with
      | none => exact .inr ⟨_, rfl, rfl⟩
      | some path =>
          cases scripts : arguments.scripts.isEmpty with
          | true => exact .inr ⟨_, rfl, rfl⟩
          | false =>
              rcases settings_cases backend.reader arguments environment folder with
                ⟨base, made, -⟩ | ⟨error, failed, early⟩
              · exact .inl ⟨arguments, path, _, parsed, out, scripts, made⟩
              · refine .inr ⟨error, ?_, early⟩
                dsimp only
                rw [failed]
                rfl

/-- **The settings with which a run starts the player are usable, if a size given as an argument
is.** Whatever the arguments, the environment and the config file, and however that file is read,
the frame interval, the depth limit and the number of idle frames are positive, and the thread has
a name. The viewport has the size given as an argument, whatever it is; without one its sides are
in range. -/
theorem settings_at_start
    (starts : Starts reader words environment folder arguments path chosen) :
    1 ≤ chosen.frameInterval ∧ 1 ≤ chosen.depthLimit ∧ 1 ≤ chosen.idleFrames ∧
      chosen.threadName ≠ "" ∧
      (∀ size, arguments.size = some size →
        (chosen.viewportWidth, chosen.viewportHeight) = size) ∧
      (chosen.IsUsable ↔
        ∀ size, arguments.size = some size →
          Settings.IsSide size.1 ∧ Settings.IsSide size.2) := by
  have made := starts.made
  rcases settings_cases reader arguments environment folder with
    ⟨base, given, usable⟩ | ⟨error, failed, -⟩
  · rw [given] at made
    cases made
    refine ⟨usable.frameInterval, usable.depthLimit, usable.idleFrames, usable.threadName, ?_,
      isUsable_override_iff usable⟩
    intro size asked
    rw [override, asked]
    rfl
  · rw [failed] at made
    cases made

/-- A run of one script with a size in range. -/
theorem settings_at_start_of_small_size :
    ∃ arguments chosen,
      Starts (fun _ => none) ["--size", "2x3", "--out", "frame.png", "root.bin"] (fun _ => none)
        {} arguments "frame.png" chosen ∧
      chosen.IsUsable := by
  have parsed : Arguments.parse ["--size", "2x3", "--out", "frame.png", "root.bin"] =
      .ok { out := some "frame.png", size := some (2, 3), scripts := [⟨rootId, "root.bin"⟩] } :=
    rfl
  have starts : Starts (fun _ => none) _ (fun _ => none) {} _ "frame.png"
      { viewportWidth := 2, viewportHeight := 3 } :=
    ⟨parsed, rfl, rfl, rfl⟩
  refine ⟨_, _, starts, (settings_at_start starts).2.2.2.2.2.mpr ?_⟩
  rintro size ⟨⟩
  exact ⟨⟨by decide, by decide⟩, by decide, by decide⟩

/-- A size without columns is taken as it is, unlike one in the environment or a config file. -/
theorem settings_at_start_not_always_usable :
    ¬∀ (reader : DocumentReader) (words : List String) (environment : String → Option String)
      (folder : Folder) (arguments : Arguments) (path : String) (chosen : Settings),
      Starts reader words environment folder arguments path chosen → chosen.IsUsable := by
  intro always
  have parsed : Arguments.parse ["--out", "frame.png", "--size", "0x4", "root.bin"] =
      .ok { out := some "frame.png", size := some (0, 4), scripts := [⟨rootId, "root.bin"⟩] } :=
    rfl
  have starts : Starts (fun _ => none) _ (fun _ => none) {} _ "frame.png"
      { viewportWidth := 0, viewportHeight := 4 } :=
    ⟨parsed, rfl, rfl, rfl⟩
  exact absurd (always _ _ _ _ _ _ _ starts).width.1 (by decide)

end Render

end ScenePlayer
