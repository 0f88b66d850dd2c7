import ScenePlayer.Proofs.Replay.ActiveScripts

/-!
Changes that stay clear of the surface. Most of what a pass does changes its state and
neither sees nor touches the surface and the shader cache (`Pass.Quiet`). All
instructions do so but those that draw or refer to another script
(`Stage.quiet_perform`).
-/

namespace ScenePlayer

variable {σ S : Type}

namespace Pass

/-- The same pass on another surface and with another cache. -/
def onto (surface : σ) (shaders : ShaderCache S) (pass : Pass σ S) : Pass σ S :=
  { pass with surface, shaders }

/-- A change of the state that neither sees nor touches surface and cache. -/
def Quiet (change : Pass σ S → Pass σ S) : Prop :=
  ∀ pass surface shaders, change (pass.onto surface shaders) = (change pass).onto surface shaders

theorem Quiet.surface {change : Pass σ S → Pass σ S} (quiet : Quiet change) (pass : Pass σ S) :
    (change pass).surface = pass.surface := by
  have same : change pass = (change pass).onto pass.surface pass.shaders :=
    quiet pass pass.surface pass.shaders
  rw [same]
  rfl

theorem Quiet.shaders {change : Pass σ S → Pass σ S} (quiet : Quiet change) (pass : Pass σ S) :
    (change pass).shaders = pass.shaders := by
  have same : change pass = (change pass).onto pass.surface pass.shaders :=
    quiet pass pass.surface pass.shaders
  rw [same]
  rfl

theorem quiet_warn (warning : ReplayWarning) : Quiet fun pass : Pass σ S => pass.warn warning :=
  fun _ _ _ => rfl

theorem quiet_entering (id : String) : Quiet fun pass : Pass σ S => pass.entering id :=
  fun _ _ _ => rfl

theorem quiet_leaving : Quiet fun pass : Pass σ S => pass.leaving := fun _ _ _ => rfl

theorem quiet_setStack (script : String) (change : StateStack → Option StateStack) :
    Quiet fun pass : Pass σ S => pass.setStack script (change pass.stack) := by
  intro pass surface shaders
  simp only [onto, setStack]
  split <;> rfl

theorem quiet_clipPath (script : String) (mode : ClipMode) :
    Quiet fun pass : Pass σ S =>
      (if pass.pen.outline?.isNone then pass.warn (.emptyPath script) else pass).addClip
        pass.pen.outline? mode := by
  intro pass surface shaders
  dsimp only [onto]
  cases pass.pen.outline? <;> rfl

end Pass

/-- Whether an instruction reads or changes surface and cache, or may let others do so. -/
def Instruction.isVisible : Instruction → Bool
  | .draw .. => true
  | .drawText .. => true
  | .drawSprites .. => true
  | .drawScript .. => true
  | .fillPath => true
  | .strokePath => true
  | _ => false

theorem Stage.quiet_perform (stage : Stage σ S)
    (descend : Option (Script → Pass σ S → Pass σ S)) (script : String)
    {instruction : Instruction} (visible : instruction.isVisible = false) :
    Pass.Quiet (stage.perform descend script instruction) := by
  cases instruction with
  | popState => exact Pass.quiet_setStack script StateStack.pop?
  | popPushState => exact Pass.quiet_setStack script StateStack.popPush?
  | clipPath mode => exact Pass.quiet_clipPath script mode
  | draw => cases visible
  | drawText => cases visible
  | drawSprites => cases visible
  | drawScript => cases visible
  | fillPath => cases visible
  | strokePath => cases visible
  | _ => exact fun pass surface shaders => rfl

end ScenePlayer
