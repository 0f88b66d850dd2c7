import ScenePlayer.Canvas.Recording
import ScenePlayer.Proofs.Replay.Change
import ScenePlayer.Proofs.Script.Edits

/-!
Following a reference. A script that is referred to works in a scope of its own,
on a path of its own. What it and the scripts below it do stays in that scope
(`Stage.confining_walk`), so after the reference the caller finds its stack, its
path and the active scripts as they were (`Stage.drawScript_restores`).
-/

namespace ScenePlayer

variable {σ S : Type}

/-- A change of a pass keeps the entries that the stack is confined above. -/
theorem Pass.Change.confined {canvas : Canvas σ S} {kept : List DrawState}
    {pass after : Pass σ S} (confined : pass.stack.Confined kept)
    (change : pass.Change canvas after) :
    after.stack.Confined kept := by
  cases change with
  | draw steps shaders number => exact confined
  | warn other => exact confined
  | stack change => exact confined.change change
  | pen pen => exact confined
  | clip outline mode => exact ⟨confined.bottom, confined.floor⟩

namespace Stage

variable (stage : Stage σ S)

/-- A walk keeps the entries that the stack is confined above. -/
def Confining (walk : Script → Pass σ S → Pass σ S) : Prop :=
  ∀ script pass kept, pass.stack.Confined kept → (walk script pass).stack.Confined kept

section Descend

variable {descend : Option (Script → Pass σ S → Pass σ S)}
  (balanced : ∀ walk ∈ descend, ∀ script pass, (walk script pass).active = pass.active)
  (confining : ∀ walk ∈ descend, Confining walk)

include balanced confining

/-- Surface, shaders, clip identifiers and report are all that a reference changes,
whether it is followed or refused. -/
theorem drawScript_eq (caller target : String) (pass : Pass σ S) :
    ∃ surface shaders clipId report,
      stage.drawScript descend caller target pass =
        { pass with surface, shaders, clipId, report } := by
  unfold drawScript
  split
  · exact ⟨_, _, _, _, rfl⟩
  · cases descend with
    | none => exact ⟨_, _, _, _, rfl⟩
    | some walk =>
        dsimp only
        split
        · exact ⟨_, _, _, _, rfl⟩
        · rename_i script _
          generalize walked :
            walk script { pass with stack := pass.stack.enter.2, pen := {} } = after
          have active : after.active = pass.active := by
            rw [← walked]
            exact balanced walk rfl script _
          have returned : after.stack.exit pass.stack.enter.1 = pass.stack := by
            refine StateStack.Confined.exit ?_
            rw [← walked]
            exact confining walk rfl script _ _ pass.stack.confined_enter
          exact ⟨after.surface, after.shaders, after.clipId, after.report, by
            rw [returned, ← active]⟩

theorem confined_perform {kept : List DrawState} {pass : Pass σ S}
    (confined : pass.stack.Confined kept) (script : String) (instruction : Instruction) :
    (stage.perform descend script instruction pass).stack.Confined kept := by
  cases refers : instruction.reference? with
  | none =>
      exact stage.perform_of_change (fun confined change => change.confined confined) refers
        descend script confined
  | some target =>
      cases instruction with
      | drawScript target =>
          obtain ⟨surface, shaders, clipId, report, same⟩ :=
            stage.drawScript_eq balanced confining script target pass
          rw [perform, same]
          exact confined
      | _ => cases refers

theorem confining_walkWith : Confining (stage.walkWith descend) := by
  intro script pass kept confined
  rw [walkWith_eq]
  have entered : (pass.entering script.id).stack.Confined kept := confined
  generalize pass.entering script.id = later at entered
  show (script.instructions.foldl _ later).stack.Confined kept
  induction script.instructions generalizing later with
  | nil => exact entered
  | cons first rest ih =>
      exact ih _ (stage.confined_perform balanced confining entered script.id first)

end Descend

/-- What a script and all scripts below it do stays above the entries that the
stack is confined above. -/
theorem confining_walk (levels : Nat) : Confining (stage.walk levels) := by
  induction levels with
  | zero => exact stage.confining_walkWith (by rintro _ ⟨⟩) (by rintro _ ⟨⟩)
  | succ levels ih =>
      refine stage.confining_walkWith ?_ ?_
      · rintro walk ⟨⟩
        exact stage.active_walk levels
      · rintro walk ⟨⟩
        exact ih

theorem confining_below (levels : Nat) : ∀ walk ∈ stage.below levels, Confining walk := by
  cases levels with
  | zero => rintro _ ⟨⟩
  | succ levels =>
      rintro walk ⟨⟩
      exact stage.confining_walk levels

/-- **A reference leaves its caller alone.** Whatever the scripts, however many levels
are left and whatever the state of the pass: when the reference has been carried
out, the whole stack with its floor, the path under construction and the active
scripts are what they were. Only the surface, the shader cache, the clip
identifiers and the report may have changed. -/
theorem drawScript_restores (levels : Nat) (script target : String) (pass : Pass σ S) :
    ∃ surface shaders clipId report,
      stage.perform (stage.below levels) script (.drawScript target) pass =
        { pass with surface, shaders, clipId, report } :=
  stage.drawScript_eq (stage.active_below levels) (stage.confining_below levels) script target pass

/-- A script that pops what it has not pushed and leaves pushed what it has. -/
example :
    let scripts := ScriptStore.edited
      [.put "leak" [.popState, .pushState, .popPushState, .paint .fill (.stream "s"),
        .clipPath .intersect]]
    let stage : Stage Recording Nat :=
      { canvas := Recording.canvas, scripts, assets := {}, depthLimit := 64 }
    let pass : Pass Recording Nat := { surface := {}, shaders := {}, stack := StateStack.push {} }
    let after := stage.perform (stage.below 3) "main" (.drawScript "leak") pass
    after.stack = pass.stack ∧ after.clipId = 1 ∧
      after.report.warnings = [.unbalancedPop "leak", .emptyPath "leak"] := ⟨rfl, rfl, rfl⟩

end Stage

end ScenePlayer
