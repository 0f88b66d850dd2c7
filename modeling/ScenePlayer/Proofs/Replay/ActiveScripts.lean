import ScenePlayer.Proofs.Replay.Drawn

/-!
Which scripts are active during a pass. Walking a script makes it active, and
when the walk is over the active scripts are those of before (`active_walk`); no
single instruction changes them (`active_perform`).
-/

namespace ScenePlayer

variable {σ S : Type}

namespace Pass

/-- Make a script active and count the visit. -/
def entering (id : String) (pass : Pass σ S) : Pass σ S :=
  { pass with
    active := pass.active ++ [id]
    report := { pass.report with visited := pass.report.visited + 1 } }

/-- The script made active last is active no more. -/
def leaving (pass : Pass σ S) : Pass σ S := { pass with active := pass.active.dropLast }

@[simp] theorem active_entering (id : String) (pass : Pass σ S) :
    (pass.entering id).active = pass.active ++ [id] := rfl

@[simp] theorem active_leaving (pass : Pass σ S) :
    pass.leaving.active = pass.active.dropLast := rfl

@[simp] theorem active_editTop (edit : DrawState → DrawState) (pass : Pass σ S) :
    (pass.editTop edit).active = pass.active := rfl

@[simp] theorem active_editPen (edit : Pen → Pen) (pass : Pass σ S) :
    (pass.editPen edit).active = pass.active := rfl

@[simp] theorem active_addClip (outline : Option Outline) (mode : ClipMode) (pass : Pass σ S) :
    (pass.addClip outline mode).active = pass.active := rfl

@[simp] theorem active_setStack (script : String) (stack : Option StateStack)
    (pass : Pass σ S) : (pass.setStack script stack).active = pass.active := by
  cases stack <;> rfl

end Pass

namespace Stage

variable (stage : Stage σ S)

/-- What follows a reference below which `levels` more may be nested. -/
def below : Nat → Option (Script → Pass σ S → Pass σ S)
  | 0 => none
  | levels + 1 => some (stage.walk levels)

theorem walk_eq (levels : Nat) : stage.walk levels = stage.walkWith (stage.below levels) := by
  cases levels <;> rfl

theorem walkWith_eq (descend : Option (Script → Pass σ S → Pass σ S)) (script : Script)
    (pass : Pass σ S) :
    stage.walkWith descend script pass =
      (script.instructions.foldl
        (fun pass instruction => stage.perform descend script.id instruction pass)
        (pass.entering script.id)).leaving := rfl

section Descend

variable {descend : Option (Script → Pass σ S → Pass σ S)}
  (balanced : ∀ walk ∈ descend, ∀ script pass, (walk script pass).active = pass.active)

include balanced

theorem active_drawScript (caller target : String) (pass : Pass σ S) :
    (stage.drawScript descend caller target pass).active = pass.active := by
  unfold drawScript
  split
  · rfl
  · cases descend with
    | none => rfl
    | some walk =>
        dsimp only
        split
        · rfl
        · exact balanced walk rfl _ _

/-- No instruction changes which scripts are active. -/
theorem active_perform (script : String) (instruction : Instruction) (pass : Pass σ S) :
    (stage.perform descend script instruction pass).active = pass.active := by
  cases instruction with
  | draw shape flags => exact ((stage.isDraw_drawShape shape flags).drawn pass).active
  | drawText text => exact ((stage.isDraw_drawText text).drawn pass).active
  | drawSprites image sprites => exact ((stage.isDraw_drawSprites image sprites).drawn pass).active
  | drawScript target => exact stage.active_drawScript balanced script target pass
  | fillPath => exact (drawn_withPath stage.isDraw_fill script pass).active
  | strokePath => exact (drawn_withPath stage.isDraw_stroke script pass).active
  | clipPath mode =>
      simp only [perform, Pass.active_addClip]
      split <;> rfl
  | _ => simp [perform]

theorem active_foldl (script : String) (instructions : List Instruction) (pass : Pass σ S) :
    (instructions.foldl (fun pass instruction =>
      stage.perform descend script instruction pass) pass).active = pass.active := by
  induction instructions generalizing pass with
  | nil => rfl
  | cons first rest ih =>
      rw [List.foldl_cons, ih, stage.active_perform balanced]

theorem active_walkWith (script : Script) (pass : Pass σ S) :
    (stage.walkWith descend script pass).active = pass.active := by
  rw [walkWith_eq, Pass.active_leaving, stage.active_foldl balanced, Pass.active_entering,
    List.dropLast_concat]

end Descend

/-- When a walk is over, the active scripts are those of before. -/
theorem active_walk (levels : Nat) (script : Script) (pass : Pass σ S) :
    (stage.walk levels script pass).active = pass.active := by
  induction levels generalizing script pass with
  | zero => exact stage.active_walkWith (by rintro _ ⟨⟩) script pass
  | succ levels ih =>
      refine stage.active_walkWith ?_ script pass
      rintro walk ⟨⟩
      exact ih

theorem active_below (levels : Nat) :
    ∀ walk ∈ stage.below levels, ∀ script pass, (walk script pass).active = pass.active := by
  cases levels with
  | zero => rintro _ ⟨⟩
  | succ levels =>
      rintro walk ⟨⟩
      exact stage.active_walk levels

end Stage

end ScenePlayer
