import ScenePlayer.Proofs.Scene.Edits

/-!
What one redraw does. It finds the scene clean and does nothing, or it finds no
root and lowers the flag, or it draws and lowers the flag, or the canvas fails and
the flag stays up (`redraw_redrawIfDirty`).
-/

namespace ScenePlayer

variable {σ S : Type}

namespace Stage

variable {stage : Stage σ S} {clear : Colour} {shaders : ShaderCache S} {surface : σ}

/-- A replay without a root leaves everything as it is. -/
theorem replay_of_absent (rooted : stage.scripts.Rooted)
    (absent : stage.scripts.contains rootId = false) :
    stage.replay clear shaders surface = (.error .missingRoot, shaders, surface) := by
  rw [ScriptStore.Rooted, absent] at rooted
  simp only [replay, rooted, Bool.false_eq_true, if_false]

/-- A replay misses its root only if the well-known script is not stored. -/
theorem absent_of_missingRoot (rooted : stage.scripts.Rooted)
    (missing : (stage.replay clear shaders surface).1 = .error .missingRoot) :
    stage.scripts.contains rootId = false := by
  cases present : stage.scripts.contains rootId with
  | false => rfl
  | true =>
      obtain ⟨root, script, found⟩ := rooted.of_contains present
      simp only [replay, run, root, found] at missing
      split at missing
      · cases missing
      · split at missing <;> cases missing

/-- A replay that gets to a canvas has a root. -/
theorem stored_of_replay (rooted : stage.scripts.Rooted)
    (begun : (stage.replay clear shaders surface).1 ≠ .error .missingRoot) :
    stage.scripts.contains rootId = true := by
  cases present : stage.scripts.contains rootId with
  | true => rfl
  | false => exact absurd (congrArg Prod.fst (replay_of_absent rooted present)) begun

end Stage

namespace Scene

/-- What a redraw answers and leaves. -/
inductive Redraw (canvas : Canvas σ S) (scene : Scene S) (surface : σ) :
    Except CanvasError (Option ReplayReport) × Scene S × σ → Prop where
  | idle (clean : scene.isDirty = false) :
      Redraw canvas scene surface (.ok none, scene, surface)
  | rootless (dirty : scene.isDirty = true) (absent : scene.scripts.contains rootId = false) :
      Redraw canvas scene surface (.ok none, { scene with redraw := {} }, surface)
  | drawn {report : ReplayReport} {shaders : ShaderCache S} {after : σ}
      (dirty : scene.isDirty = true)
      (replayed : (scene.stage canvas).replay scene.clearColour scene.shaders surface =
        (.ok report, shaders, after)) :
      Redraw canvas scene surface (.ok (some report), { scene with redraw := {}, shaders }, after)
  | failed {error : CanvasError} {shaders : ShaderCache S} {after : σ}
      (dirty : scene.isDirty = true)
      (replayed : (scene.stage canvas).replay scene.clearColour scene.shaders surface =
        (.error (.canvas error), shaders, after)) :
      Redraw canvas scene surface
        (.error error, { scene with redraw := {}, shaders }.mark, after)

theorem redraw_redrawIfDirty (canvas : Canvas σ S) {scene : Scene S}
    (rooted : scene.scripts.Rooted) (surface : σ) :
    Redraw canvas scene surface (scene.redrawIfDirty canvas surface) := by
  unfold redrawIfDirty
  cases dirty : scene.isDirty with
  | false =>
      rw [DirtyFlag.take_of_clean dirty]
      exact .idle dirty
  | true =>
      rw [DirtyFlag.take_of_dirty dirty]
      dsimp only [replayFrame]
      have stage : Scene.stage canvas { scene with redraw := {} } = scene.stage canvas := rfl
      rw [stage]
      rcases replayed : (scene.stage canvas).replay scene.clearColour scene.shaders surface
        with ⟨_ | _, shaders, after⟩
      · rename_i error
        cases error with
        | missingRoot =>
            have absent : scene.scripts.contains rootId = false :=
              Stage.absent_of_missingRoot rooted (congrArg Prod.fst replayed)
            rw [Stage.replay_of_absent rooted absent] at replayed
            cases replayed
            exact .rootless dirty absent
        | canvas error => exact .failed dirty replayed
      · exact .drawn dirty replayed

end Scene

end ScenePlayer
