import ScenePlayer.Proofs.Replay.Change

/-!
Warnings of a replay, which are never taken back. So if a replay has given no warning in
the end that a reference is too deep, no reference on the way was refused for its depth,
and a replay with more levels to go down is the same one (`Stage.run_of_unexceeded`).
-/

namespace ScenePlayer

variable {σ S : Type}

namespace Stage

variable (stage : Stage σ S)

section Descend

variable {descend : Option (Script → Pass σ S → Pass σ S)}
  (kept : ∀ walk ∈ descend, ∀ script pass,
    pass.report.warnings <+: (walk script pass).report.warnings)

include kept

/-- No instruction takes a warning back. -/
theorem warnings_perform (script : String) (instruction : Instruction) (pass : Pass σ S) :
    pass.report.warnings <+: (stage.perform descend script instruction pass).report.warnings := by
  cases refers : instruction.reference? with
  | none =>
      refine stage.perform_of_change (P := fun after =>
        pass.report.warnings <+: after.report.warnings) ?_ refers descend script List.prefix_rfl
      intro before after warned change
      cases change with
      | warn other => exact warned.trans (List.prefix_append _ _)
      | _ => exact warned
  | some target =>
      obtain rfl := reference?_eq_some.1 refers
      simp only [perform, drawScript]
      split
      · exact List.prefix_append _ _
      · cases descend with
        | none => exact List.prefix_append _ _
        | some walk =>
            dsimp only
            split
            · exact List.prefix_append _ _
            · rename_i next _
              exact kept walk rfl next { pass with stack := pass.stack.enter.2, pen := {} }

theorem warnings_foldl (script : String) (instructions : List Instruction) (pass : Pass σ S) :
    pass.report.warnings <+: (instructions.foldl (fun pass instruction =>
      stage.perform descend script instruction pass) pass).report.warnings := by
  induction instructions generalizing pass with
  | nil => exact List.prefix_rfl
  | cons first rest ih => exact (stage.warnings_perform kept script first pass).trans (ih _)

theorem warnings_walkWith (script : Script) (pass : Pass σ S) :
    pass.report.warnings <+: (stage.walkWith descend script pass).report.warnings := by
  rw [walkWith_eq]
  exact stage.warnings_foldl kept script.id script.instructions (pass.entering script.id)

end Descend

/-- A walk takes no warning back. -/
theorem warnings_walk (levels : Nat) (script : Script) (pass : Pass σ S) :
    pass.report.warnings <+: (stage.walk levels script pass).report.warnings := by
  induction levels generalizing script pass with
  | zero => exact stage.warnings_walkWith (by rintro _ ⟨⟩) script pass
  | succ levels ih =>
      refine stage.warnings_walkWith ?_ script pass
      rintro walk ⟨⟩
      exact ih

theorem warnings_below (levels : Nat) : ∀ walk ∈ stage.below levels, ∀ script pass,
    pass.report.warnings <+: (walk script pass).report.warnings := by
  cases levels with
  | zero => rintro _ ⟨⟩
  | succ levels =>
      rintro walk ⟨⟩
      exact stage.warnings_walk levels

end Stage

/-- No reference has been refused for its depth. -/
def Unexceeded (warnings : List ReplayWarning) : Prop :=
  ∀ target depth, .depthExceeded target depth ∉ warnings

theorem Unexceeded.of_prefix {warnings later : List ReplayWarning} (unexceeded : Unexceeded later)
    (earlier : warnings <+: later) : Unexceeded warnings :=
  fun target depth member => unexceeded target depth (earlier.subset member)

namespace Stage

variable {stage : Stage σ S}

/-! ### More levels -/

/-- A reference that is not refused for its depth is followed alike if more levels are
left. -/
theorem perform_of_unexceeded {levels more : Nat}
    (deeper : ∀ fewer, levels = fewer + 1 → ∀ script (pass : Pass σ S),
      Unexceeded (stage.walk fewer script pass).report.warnings →
        stage.walk (fewer + more) script pass = stage.walk fewer script pass)
    (script : String) (instruction : Instruction) (pass : Pass σ S)
    (unexceeded : Unexceeded
      (stage.perform (stage.below levels) script instruction pass).report.warnings) :
    stage.perform (stage.below (levels + more)) script instruction pass =
      stage.perform (stage.below levels) script instruction pass := by
  cases refers : instruction.reference? with
  | none =>
      rw [perform_of_reference_none refers, perform_of_reference_none refers (stage.below levels)]
  | some target =>
      obtain rfl := reference?_eq_some.1 refers
      simp only [perform, drawScript] at unexceeded ⊢
      split
      · rfl
      · rename_i inactive
        rw [if_neg inactive] at unexceeded
        cases levels with
        | zero =>
            refine absurd ?_ (unexceeded target pass.active.length)
            simp [below, Pass.warn, ReplayReport.warn]
        | succ fewer =>
            rw [Nat.succ_add]
            dsimp only [below] at unexceeded ⊢
            cases found : stage.scripts.find? target with
            | none => rfl
            | some next =>
                rw [found] at unexceeded
                dsimp only
                rw [deeper fewer rfl next _ unexceeded]

theorem foldl_of_unexceeded {levels more : Nat}
    (deeper : ∀ fewer, levels = fewer + 1 → ∀ script (pass : Pass σ S),
      Unexceeded (stage.walk fewer script pass).report.warnings →
        stage.walk (fewer + more) script pass = stage.walk fewer script pass)
    (script : String) (instructions : List Instruction) (pass : Pass σ S)
    (unexceeded : Unexceeded (instructions.foldl (fun pass instruction =>
      stage.perform (stage.below levels) script instruction pass) pass).report.warnings) :
    instructions.foldl (fun pass instruction =>
        stage.perform (stage.below (levels + more)) script instruction pass) pass =
      instructions.foldl (fun pass instruction =>
        stage.perform (stage.below levels) script instruction pass) pass := by
  induction instructions generalizing pass with
  | nil => rfl
  | cons first rest ih =>
      have here := unexceeded.of_prefix
        (stage.warnings_foldl (stage.warnings_below levels) script rest _)
      rw [List.foldl_cons, List.foldl_cons, perform_of_unexceeded deeper script first pass here]
      exact ih _ unexceeded

/-- A walk that refuses nothing for its depth is the same if more levels are left. -/
theorem walk_of_unexceeded (levels more : Nat) (script : Script) (pass : Pass σ S)
    (unexceeded : Unexceeded (stage.walk levels script pass).report.warnings) :
    stage.walk (levels + more) script pass = stage.walk levels script pass := by
  induction levels using Nat.strongRecOn generalizing script pass with
  | ind levels ih =>
      rw [walk_eq, walkWith_eq] at unexceeded
      rw [walk_eq, walk_eq, walkWith_eq, walkWith_eq]
      refine congrArg Pass.leaving (foldl_of_unexceeded ?_ script.id script.instructions _ ?_)
      · intro fewer less script pass unexceeded
        exact ih fewer (by omega) script pass unexceeded
      · exact unexceeded

/-- The warnings given when a replay has left all scripts. -/
def warned (stage : Stage σ S) (root : String) (clear : Colour) (shaders : ShaderCache S)
    (surface : σ) : List ReplayWarning :=
  match stage.scripts.find? root with
  | none => []
  | some script =>
      match stage.canvas.beginFrame clear surface with
      | (.error _, _) => []
      | (.ok (), surface) =>
          (stage.walk (stage.depthLimit - 1) script { surface, shaders }).report.warnings

/-- These are the warnings that a replay reports. -/
theorem warnings_run {root : String} {clear : Colour} {shaders : ShaderCache S} {surface : σ}
    {report : ReplayReport} (reported : (stage.run root clear shaders surface).1 = .ok report) :
    report.warnings = stage.warned root clear shaders surface := by
  cases found : stage.scripts.find? root with
  | none =>
      simp only [run, found] at reported
      cases reported
  | some script =>
      rcases begun : stage.canvas.beginFrame clear surface with ⟨error | done, opened⟩
      · simp only [run, found, begun] at reported
        cases reported
      · simp only [run, found, begun] at reported
        simp only [warned, found, begun]
        split at reported <;> cases reported
        rfl

/-- The same stage with another depth limit. -/
def withLimit (limit : Nat) (stage : Stage σ S) : Stage σ S := { stage with depthLimit := limit }

theorem walk_withLimit (limit levels : Nat) :
    (stage.withLimit limit).walk levels = stage.walk levels := by
  induction levels with
  | zero => rfl
  | succ levels ih =>
      rw [walk, walk, ih]
      rfl

/-- A replay that refuses nothing for its depth is the same under a higher limit. -/
theorem run_of_unexceeded {limit : Nat} (deeper : stage.depthLimit ≤ limit) {root : String}
    {clear : Colour} {shaders : ShaderCache S} {surface : σ}
    (unexceeded : Unexceeded (stage.warned root clear shaders surface)) :
    (stage.withLimit limit).run root clear shaders surface =
      stage.run root clear shaders surface := by
  obtain ⟨more, levels⟩ : ∃ more, limit - 1 = stage.depthLimit - 1 + more :=
    ⟨limit - 1 - (stage.depthLimit - 1), by omega⟩
  have scripts : (stage.withLimit limit).scripts = stage.scripts := rfl
  have canvas : (stage.withLimit limit).canvas = stage.canvas := rfl
  have limited : (stage.withLimit limit).depthLimit = limit := rfl
  simp only [run, walk_withLimit, scripts, canvas, limited]
  cases found : stage.scripts.find? root with
  | none => rfl
  | some script =>
      rcases begun : stage.canvas.beginFrame clear surface with ⟨error | done, opened⟩
      · rfl
      · simp only [warned, found, begun] at unexceeded
        simp only [levels, walk_of_unexceeded _ _ script _ unexceeded]

end Stage

end ScenePlayer
