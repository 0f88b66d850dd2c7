import ScenePlayer.Replay.Pass

/-!
What draws see and what they leave alone. A draw changes the surface, the shader cache and the
report, and nothing else of a pass (`Pass.Drawn`). What it makes of them is decided by the live
state, the surface and the shader cache (`Pass.IsDraw`). So a draw does the same in all
surroundings (`Pass.IsDraw.through`).
-/

namespace ScenePlayer

variable {σ S : Type}

namespace Pass

/-- The surface, the shader cache and the report are all that has changed. -/
def Drawn (pass after : Pass σ S) : Prop :=
  ∃ surface shaders report, after = { pass with surface, shaders, report }

variable {pass after : Pass σ S}

theorem Drawn.stack (drawn : pass.Drawn after) : after.stack = pass.stack := by
  obtain ⟨_, _, _, rfl⟩ := drawn
  rfl

theorem Drawn.active (drawn : pass.Drawn after) : after.active = pass.active := by
  obtain ⟨_, _, _, rfl⟩ := drawn
  rfl

theorem Drawn.pen (drawn : pass.Drawn after) : after.pen = pass.pen := by
  obtain ⟨_, _, _, rfl⟩ := drawn
  rfl

theorem drawn_warn (warning : ReplayWarning) (pass : Pass σ S) : pass.Drawn (pass.warn warning) :=
  ⟨_, _, _, rfl⟩

end Pass

/-! ### Draws and their surroundings -/

/-- What a draw makes of the surface and the shader cache, and what it adds to the report. -/
structure DrawEffect (σ S : Type) where
  surface : σ
  shaders : ShaderCache S
  warnings : List ReplayWarning := []
  draws : Nat := 0

namespace Pass

/-- The pass after an effect. -/
def affected (effect : DrawEffect σ S) (pass : Pass σ S) : Pass σ S :=
  { pass with
    surface := effect.surface
    shaders := effect.shaders
    report :=
      { pass.report with
        warnings := pass.report.warnings ++ effect.warnings
        draws := pass.report.draws + effect.draws } }

/-- A change whose effect is decided by the live state, the surface and the shader cache. -/
def IsDraw (change : Pass σ S → Pass σ S) : Prop :=
  ∃ effect : DrawState → σ → ShaderCache S → DrawEffect σ S,
    ∀ pass, change pass = pass.affected (effect pass.stack.top pass.surface pass.shaders)

/-- A change of a pass that a draw does not see, and that does not see the draw. -/
structure Surrounds (frame : Pass σ S → Pass σ S) : Prop where
  top : ∀ pass, (frame pass).stack.top = pass.stack.top
  surface : ∀ pass, (frame pass).surface = pass.surface
  shaders : ∀ pass, (frame pass).shaders = pass.shaders
  affected : ∀ effect pass, frame (pass.affected effect) = (frame pass).affected effect

variable {change frame first second : Pass σ S → Pass σ S}

theorem IsDraw.drawn (draws : IsDraw change) (pass : Pass σ S) : pass.Drawn (change pass) := by
  obtain ⟨effect, same⟩ := draws
  exact ⟨_, _, _, same pass⟩

/-- A draw does the same in other surroundings. -/
theorem IsDraw.through (draws : IsDraw change) (surrounds : Surrounds frame) (pass : Pass σ S) :
    change (frame pass) = frame (change pass) := by
  obtain ⟨effect, same⟩ := draws
  rw [same, same, surrounds.top, surrounds.surface, surrounds.shaders, surrounds.affected]

theorem isDraw_id : IsDraw fun pass : Pass σ S => pass := by
  refine ⟨fun _ surface shaders => { surface, shaders }, fun pass => ?_⟩
  simp only [affected, List.append_nil, Nat.add_zero]

theorem isDraw_warn (warning : ReplayWarning) : IsDraw fun pass : Pass σ S => pass.warn warning :=
  ⟨fun _ surface shaders => { surface, shaders, warnings := [warning] }, fun _ => rfl⟩

/-- What is drawn may depend on the live state. -/
theorem isDraw_drawing (number : Nat) (draw : DrawState → σ → σ) :
    IsDraw fun pass : Pass σ S => pass.drawing number (draw pass.stack.top) := by
  refine ⟨fun state surface shaders =>
    { surface := draw state surface, shaders, draws := number }, fun pass => ?_⟩
  simp only [affected, drawing, List.append_nil]

theorem IsDraw.andThen (before : IsDraw first) (after : IsDraw second) :
    IsDraw fun pass => second (first pass) := by
  obtain ⟨start, started⟩ := before
  obtain ⟨finish, finished⟩ := after
  refine ⟨fun state surface shaders =>
    let reached := start state surface shaders
    let left := finish state reached.surface reached.shaders
    { left with
      warnings := reached.warnings ++ left.warnings
      draws := reached.draws + left.draws }, fun pass => ?_⟩
  simp only [started, finished, affected, List.append_assoc, Nat.add_assoc]

end Pass

namespace Stage

open Pass (IsDraw drawn_warn)

variable (stage : Stage σ S)

theorem isDraw_withInk (slot : PaintSlot) {draw : Ink S → Pass σ S → Pass σ S}
    (drawn : ∀ ink, IsDraw (draw ink)) : IsDraw (stage.withInk slot draw) := by
  obtain ⟨effect, same⟩ := Classical.axiomOfChoice drawn
  refine ⟨fun state surface shaders =>
    match shaders.resolve stage.canvas.buildShader stage.assets (state.paint slot) surface with
    | (.ok ink, shaders, surface) => effect ink state surface shaders
    | (.error (.missingAsset kind id), shaders, surface) =>
        { surface, shaders, warnings := [.missingAsset kind id] }
    | (.error .unsupported, shaders, surface) =>
        { surface, shaders, warnings := [.unsupportedPaint] }, fun pass => ?_⟩
  simp only [withInk]
  rcases pass.shaders.resolve stage.canvas.buildShader stage.assets (pass.stack.top.paint slot)
    pass.surface with ⟨error | ink, shaders, surface⟩
  · cases error <;> rfl
  · exact same ink { pass with shaders, surface }

theorem isDraw_fill (outline : Outline) : IsDraw (stage.fill outline) :=
  stage.isDraw_withInk .fill fun ink =>
    Pass.isDraw_drawing 1 fun state => stage.canvas.fill outline ink state.placement

theorem isDraw_stroke (outline : Outline) : IsDraw (stage.stroke outline) :=
  stage.isDraw_withInk .stroke fun ink => Pass.isDraw_drawing 1 fun state =>
    stage.canvas.stroke outline ink state.strokeStyle state.placement

theorem isDraw_drawText (text : String) : IsDraw (stage.drawText text) :=
  stage.isDraw_withInk .fill fun ink => Pass.isDraw_drawing 1 fun state =>
    stage.canvas.text ⟨text, state.textStyle, stage.assets.font? state.textStyle.font⟩ ink
      state.placement

theorem isDraw_drawShape (shape : Shape) (flags : DrawFlags) :
    IsDraw (stage.drawShape shape flags) := by
  unfold drawShape
  cases shape.outline? with
  | none => exact Pass.isDraw_id
  | some outline =>
      have filled : IsDraw fun pass =>
          if flags.fills && shape.hasInterior then stage.fill outline pass else pass := by
        split
        · exact stage.isDraw_fill outline
        · exact Pass.isDraw_id
      dsimp only
      split
      · exact filled.andThen (stage.isDraw_stroke outline)
      · exact filled

theorem isDraw_drawSprites (image : String) (sprites : List Sprite) :
    IsDraw (stage.drawSprites image sprites) := by
  unfold drawSprites
  cases stage.assets.texture? image with
  | none => exact Pass.isDraw_warn _
  | some texture =>
      exact Pass.isDraw_drawing sprites.length fun state surface =>
        sprites.foldl (fun surface sprite =>
          stage.canvas.sprite texture.picture sprite state.placement surface) surface

theorem drawn_withPath {draw : Outline → Pass σ S → Pass σ S}
    (drawn : ∀ outline, IsDraw (draw outline)) (script : String) (pass : Pass σ S) :
    pass.Drawn (withPath script draw pass) := by
  unfold withPath
  split
  · exact (drawn _).drawn pass
  · exact drawn_warn _ pass

end Stage

end ScenePlayer
