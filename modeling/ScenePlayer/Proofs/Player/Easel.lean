import ScenePlayer.Player
import ScenePlayer.Proofs.Replay.Agreement
import ScenePlayer.Proofs.Scene.Edits

/-!
Scenes drawn without a player. An easel carries out calls on the spot, on its scene
and its surface, and draws a frame when it is asked to. Easels that hold the same
scene and surfaces of one size show the same frame, whatever was drawn on them
before, if the screen repeats its frames (`Easel.Matches.frame`).
-/

namespace ScenePlayer

/-- A scene and the surface that it is drawn on. -/
structure Easel (σ S : Type) where
  scene : Scene S
  surface : σ

variable {σ S : Type} {screen : Screen σ S} {decoder : ImageDecoder}

namespace Easel

section

variable (screen : Screen σ S) (decoder : ImageDecoder)

/-- An easel with nothing on it. -/
def create (settings : Settings) : Except CanvasError (Easel σ S) := do
  let surface ← screen.create settings.viewportWidth settings.viewportHeight
  return { scene := Scene.ofConfig settings.scene, surface }

def edit (easel : Easel σ S) (edit : SceneEdit) : Easel σ S :=
  { easel with scene := easel.scene.edit decoder edit }

/-- A size that the surface cannot have changes nothing. -/
def resize (easel : Easel σ S) (width height : Nat) : Easel σ S :=
  { easel with surface := (screen.resize width height easel.surface).2 }

/-- Carry out a call. -/
def carry (easel : Easel σ S) : Call → Easel σ S
  | .submit id bytes => easel.edit decoder (.submit id bytes)
  | .submitBatch entries => easel.edit decoder (.submitBatch entries)
  | .delete id => easel.edit decoder (.delete id)
  | .reset => easel.edit decoder .reset
  | .setClearColour colour => easel.edit decoder (.setClearColour colour)
  | .putImage id bytes => easel.edit decoder (.putImage id bytes)
  | .putStream id format width height bytes =>
      easel.edit decoder (.putStream id format width height bytes)
  | .putFont id bytes => easel.edit decoder (.putFont id bytes)
  | .deleteAsset kind id => easel.edit decoder (.deleteAsset kind id)
  | .resize width height => easel.resize screen width height
  | .requestRedraw => easel.edit decoder .requestRedraw

/-- Carry out a command, whose payload has been decoded. -/
def perform (easel : Easel σ S) : Command → Easel σ S
  | .submit id instructions => { easel with scene := easel.scene.submitDecoded id instructions }
  | .submitBatch entries => { easel with scene := easel.scene.submitDecodedBatch entries }
  | .delete id => { easel with scene := (easel.scene.delete id).2 }
  | .reset => { easel with scene := easel.scene.reset }
  | .setClearColour colour => { easel with scene := easel.scene.setClearColour colour }
  | .putAsset id asset => { easel with scene := easel.scene.assetReady id asset }
  | .deleteAsset kind id => { easel with scene := (easel.scene.deleteAsset kind id).2 }
  | .resize width height => easel.resize screen width height
  | .requestRedraw => { easel with scene := easel.scene.mark }

/-- The frame that a replay shows, if there is a root. -/
def frame? (easel : Easel σ S) : Option Frame :=
  match easel.scene.replayFrame screen.canvas easel.surface with
  | (.ok _, _, surface) => some (screen.frame surface)
  | (.error _, _, _) => none

end

/-- A call that is accepted does what its command does. -/
theorem carry_of_command {call : Call} {command : Command}
    (accepted : call.command decoder = .ok command) (easel : Easel σ S) :
    easel.carry screen decoder call = easel.perform screen command := by
  have put : ∀ (id : String) (asset : Except AssetError Asset),
      Call.putCommand id asset = .ok command →
        { easel with scene := (easel.scene.putAsset id asset).2 } =
          easel.perform screen command := by
    intro id asset stores
    cases asset with
    | error error => cases stores
    | ok asset =>
        cases stores
        rfl
  cases call with
  | submit id bytes =>
      simp only [Call.command] at accepted
      cases decoded : decode bytes with
      | error error =>
          rw [decoded] at accepted
          cases accepted
      | ok instructions =>
          rw [decoded] at accepted
          cases accepted
          simp only [carry, perform, edit, Scene.edit, Scene.submit, ScriptStore.putEncoded,
            decoded]
          rfl
  | submitBatch entries =>
      simp only [Call.command] at accepted
      cases decoded : decodeBatch entries with
      | error error =>
          rw [decoded] at accepted
          cases accepted
      | ok staged =>
          rw [decoded] at accepted
          cases accepted
          simp only [carry, perform, edit, Scene.edit, Scene.submitBatch, decoded]
  | putImage id bytes => exact put id _ accepted
  | putStream id format width height bytes => exact put id _ accepted
  | putFont id bytes => exact put id _ accepted
  | _ =>
      cases accepted
      rfl

/-! ### What an easel shows -/

variable {builds : ShaderSource → Option S} {size : σ → Nat × Nat}
  {Agree : Nat × Nat → σ → σ → Prop}

/-- The root is the well-known one, no stored script draws text, and the shaders in
the cache are those of the sources they are kept for. -/
structure Proper (builds : ShaderSource → Option S) (easel : Easel σ S) : Prop where
  rooted : easel.scene.scripts.Rooted
  textless : easel.scene.scripts.Textless
  coherent : easel.scene.shaders.Coherent (Canvas.Answers builds) easel.scene.assets

/-- Two easels hold the same scene, and surfaces of one size. -/
structure Matches (size : σ → Nat × Nat) (easel other : Easel σ S) : Prop where
  alike : Scene.Alike easel.scene other.scene
  size : size easel.surface = size other.surface

variable {easel other : Easel σ S}

theorem Matches.refl (size : σ → Nat × Nat) (easel : Easel σ S) : easel.Matches size easel :=
  ⟨.refl _, rfl⟩

section Frame

variable (repeats : screen.Repeats builds size Agree) (same : easel.Matches size other)
  (proper : easel.Proper builds) (otherProper : other.Proper builds)
  (stored : easel.scene.scripts.contains rootId = true)

include repeats same proper otherProper stored

/-- A replay on one of two easels that match draws what the other shows. -/
theorem Matches.replay :
    ∃ report shaders after,
      (easel.scene.stage screen.canvas).replay easel.scene.clearColour easel.scene.shaders
          easel.surface = (.ok report, shaders, after) ∧
        other.frame? screen = some (screen.frame after) ∧
        size after = size easel.surface ∧
        shaders.Coherent (Canvas.Answers builds) easel.scene.assets := by
  obtain ⟨root, script, found⟩ := proper.rooted.of_contains stored
  have otherCoherent := otherProper.coherent
  rw [← same.alike.assets] at otherCoherent
  have stage : other.scene.stage screen.canvas = easel.scene.stage screen.canvas := by
    rw [Scene.stage, Scene.stage, same.alike.scripts, same.alike.assets, same.alike.depthLimit]
  have onScreen : (easel.scene.stage screen.canvas).canvas.Repeats builds size Agree :=
    repeats.toRepeats
  obtain ⟨report, shaders, otherShaders, after, otherAfter, replayed, otherReplayed, agree,
    coherent, -⟩ :=
    Stage.replay_agrees onScreen proper.textless root found easel.scene.clearColour
      proper.coherent otherCoherent same.size
  refine ⟨report, shaders, after, replayed, ?_, repeats.size agree, coherent⟩
  rw [same.alike.clearColour] at otherReplayed
  simp only [frame?, Scene.replayFrame, stage, otherReplayed]
  rw [repeats.frame agree]

theorem Matches.frame : easel.frame? screen = other.frame? screen := by
  obtain ⟨_, _, after, replayed, shown, -⟩ := same.replay repeats proper otherProper stored
  rw [shown]
  simp only [frame?, Scene.replayFrame, replayed]

end Frame

/-! ### What commands keep -/

theorem proper_create (builds : ShaderSource → Option S) {settings : Settings}
    (created : create screen settings = .ok easel) : easel.Proper builds := by
  simp only [create, bind, Except.bind] at created
  split at created
  · cases created
  · cases created
    exact ⟨ScriptStore.rooted_empty, ScriptStore.textless_empty,
      ShaderCache.coherent_new settings.idleFrames⟩

end Easel

/-- No script that a command brings draws text. -/
def Command.Textless : Command → Prop
  | .submit _ instructions => ScenePlayer.Textless instructions
  | .submitBatch entries => ∀ entry ∈ entries, ScenePlayer.Textless entry.2
  | _ => True

/-- Every command edits the scene or gives the surface another size. -/
theorem Command.edit_or_resize (screen : Screen σ S) (decoder : ImageDecoder)
    (command : Command) :
    (∃ edit : SceneEdit,
      (∀ easel : Easel σ S, easel.perform screen command = easel.edit decoder edit) ∧
      (∀ player : Player σ S, player.perform screen command =
        { player with
          scene := player.scene.edit decoder edit
          scripts := (player.scene.edit decoder edit).scripts.size }) ∧
      (command.Textless → ∀ change, edit.script? = some change → change.Textless)) ∨
      ∃ width height, command = .resize width height := by
  cases command with
  | submit id instructions =>
      refine .inl ⟨.submitDecoded id instructions, fun _ => rfl, fun _ => rfl, ?_⟩
      rintro textless change ⟨⟩
      exact textless
  | submitBatch entries =>
      refine .inl ⟨.submitDecodedBatch entries, fun _ => rfl, fun _ => rfl, ?_⟩
      rintro textless change ⟨⟩
      exact textless
  | delete id => exact .inl ⟨.delete id, fun _ => rfl, fun _ => rfl, by rintro - change ⟨⟩; trivial⟩
  | reset => exact .inl ⟨.reset, fun _ => rfl, fun _ => rfl, by rintro - change ⟨⟩; trivial⟩
  | setClearColour colour => exact .inl ⟨.setClearColour colour, fun _ => rfl, fun _ => rfl, nofun⟩
  | putAsset id asset => exact .inl ⟨.assetReady id asset, fun _ => rfl, fun _ => rfl, nofun⟩
  | deleteAsset kind id => exact .inl ⟨.deleteAsset kind id, fun _ => rfl, fun _ => rfl, nofun⟩
  | resize width height => exact .inr ⟨width, height, rfl⟩
  | requestRedraw => exact .inl ⟨.requestRedraw, fun _ => rfl, fun _ => rfl, nofun⟩

namespace Easel

variable {builds : ShaderSource → Option S} {easel : Easel σ S}

theorem Proper.edit (proper : easel.Proper builds) {edit : SceneEdit}
    (new : ∀ change, edit.script? = some change → change.Textless) :
    (easel.edit decoder edit).Proper builds := by
  have edited := easel.scene.edited_edit decoder edit
  exact ⟨edited.rooted proper.rooted, edited.textless proper.textless new,
    edited.coherent proper.coherent⟩

theorem Proper.resize (proper : easel.Proper builds) (width height : Nat) :
    (easel.resize screen width height).Proper builds :=
  ⟨proper.rooted, proper.textless, proper.coherent⟩

end Easel

end ScenePlayer
