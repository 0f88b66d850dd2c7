import ScenePlayer.Proofs.Replay.Action
import ScenePlayer.Proofs.Replay.Confinement

/-!
What a script that is referred to inherits. A pass may lie over a caller: its stack on
top of the caller's entries, which are all part of the floor, and its report behind the
caller's (`Pass.atop`). No instruction sees or touches what a pass lies over
(`Pass.Local`): a draw sees no surroundings at all (`Pass.IsDraw.isLocal`), and no pop gets
down to the caller's entries. So a walk does the same over any caller (`Stage.local_walk`).

A script that is referred to lies over its caller from its start. So a reference does
what it does to the inherited part alone, and the caller takes over from there
(`Stage.drawScript_eq_resume`). Callers that agree in what is inherited see the same
reference (`Stage.reference_sees_inheritance`).
-/

namespace ScenePlayer

variable {σ S : Type}

/-! ### Lying over a caller -/

/-- A report that goes on with another. -/
def ReplayReport.plus (report added : ReplayReport) : ReplayReport where
  warnings := report.warnings ++ added.warnings
  visited := report.visited + added.visited
  draws := report.draws + added.draws

theorem ReplayReport.plus_warn (report added : ReplayReport) (warning : ReplayWarning) :
    (report.plus added).warn warning = report.plus (added.warn warning) := by
  simp only [plus, warn, List.append_assoc]

theorem ReplayReport.plus_assoc (first second third : ReplayReport) :
    (first.plus second).plus third = first.plus (second.plus third) := by
  simp only [plus, List.append_assoc, Nat.add_assoc]

namespace StateStack

/-- The same stack on top of further entries, all of them part of the floor. -/
def above (kept : List DrawState) (stack : StateStack) : StateStack :=
  { stack with below := stack.below ++ kept, floor := stack.floor + kept.length }

/-- Whether there is something to pop does not depend on what lies below the floor. -/
theorem pop?_above (kept : List DrawState) (stack : StateStack) :
    (stack.above kept).pop? = stack.pop?.map (above kept) := by
  obtain ⟨top, below, floor⟩ := stack
  cases below with
  | nil =>
      cases kept with
      | nil => rfl
      | cons saved rest =>
          have least : rest.length < floor + (rest.length + 1) := by omega
          exact if_pos least
  | cons saved rest =>
      simp only [pop?, above, List.cons_append, List.length_append, Nat.add_lt_add_iff_right]
      split <;> rfl

theorem popPush?_above (kept : List DrawState) (stack : StateStack) :
    (stack.above kept).popPush? = stack.popPush?.map (above kept) := by
  simp only [popPush?, pop?_above, Option.map_map]
  rfl

/-- A scope starts on the live state alone, on top of all that was there. -/
theorem enter_eq_above (stack : StateStack) :
    stack.enter.2 = above (stack.top :: stack.below) { top := stack.top } := by
  simp only [enter, push, above, List.nil_append, List.length_cons, Nat.zero_add]

end StateStack

namespace Pass

/-- The same pass over a caller with the entries `kept` and the report `earlier`. -/
def atop (kept : List DrawState) (earlier : ReplayReport) (pass : Pass σ S) : Pass σ S :=
  { pass with stack := pass.stack.above kept, report := earlier.plus pass.report }

/-- A change that neither sees nor touches what a pass lies over. -/
def Local (change : Pass σ S → Pass σ S) : Prop :=
  ∀ kept earlier pass, change (pass.atop kept earlier) = (change pass).atop kept earlier

/-! ### Changes of a pass -/

theorem local_id : Local fun pass : Pass σ S => pass := fun _ _ _ => rfl

theorem Local.andThen {first second : Pass σ S → Pass σ S} (before : Local first)
    (after : Local second) : Local fun pass => second (first pass) := fun kept earlier pass =>
  (congrArg second (before kept earlier pass)).trans (after kept earlier (first pass))

theorem local_warn (warning : ReplayWarning) :
    Local fun pass : Pass σ S => pass.warn warning := by
  intro kept earlier pass
  simp only [warn, atop, ReplayReport.plus_warn]

theorem local_entering (id : String) : Local fun pass : Pass σ S => pass.entering id :=
  fun _ _ _ => rfl

theorem local_leaving : Local fun pass : Pass σ S => pass.leaving := fun _ _ _ => rfl

theorem surrounds_atop (kept : List DrawState) (earlier : ReplayReport) :
    Surrounds fun pass : Pass σ S => pass.atop kept earlier where
  top _ := rfl
  surface _ := rfl
  shaders _ := rfl
  affected _ _ := by
    simp only [affected, atop, ReplayReport.plus, List.append_assoc, Nat.add_assoc]

/-- A caller is among the surroundings of a draw. -/
theorem IsDraw.isLocal {change : Pass σ S → Pass σ S} (draws : IsDraw change) : Local change :=
  fun kept earlier => draws.through (surrounds_atop kept earlier)

theorem local_setStack (script : String) {change : StateStack → Option StateStack}
    (above : ∀ kept stack, change (stack.above kept) = (change stack).map (.above kept)) :
    Local fun pass : Pass σ S => pass.setStack script (change pass.stack) := by
  intro kept earlier pass
  have shifted : change (pass.atop kept earlier).stack = (change pass.stack).map (.above kept) :=
    above kept pass.stack
  simp only [shifted]
  cases change pass.stack with
  | none => exact local_warn _ kept earlier pass
  | some stack => rfl

theorem local_addClip (outline : Option Outline) (mode : ClipMode) :
    Local fun pass : Pass σ S => pass.addClip outline mode := fun _ _ _ => rfl

theorem local_clipPath (script : String) (mode : ClipMode) :
    Local fun pass : Pass σ S =>
      (if pass.pen.outline?.isNone then pass.warn (.emptyPath script) else pass).addClip
        pass.pen.outline? mode := by
  intro kept earlier pass
  have pen : (pass.atop kept earlier).pen = pass.pen := rfl
  simp only [pen]
  split
  · exact (local_warn _).andThen (local_addClip pass.pen.outline? mode) kept earlier pass
  · rfl

end Pass

namespace Stage

open Pass (Local)

variable (stage : Stage σ S)

theorem local_withPath (script : String) {draw : Outline → Pass σ S → Pass σ S}
    (drawn : ∀ outline, Local (draw outline)) : Local (withPath script draw) := by
  intro kept earlier pass
  have pen : (pass.atop kept earlier).pen = pass.pen := rfl
  unfold withPath
  rw [pen]
  cases pass.pen.outline? with
  | none => exact Pass.local_warn _ kept earlier pass
  | some outline => exact drawn outline kept earlier pass

end Stage

/-! ### References -/

namespace Pass

/-- What a script that is referred to inherits: the live state, the active scripts, the
clip identifiers, the shader cache and the surface. It starts with a path and a report of
its own. -/
def inherited (pass : Pass σ S) : Pass σ S :=
  { pass with stack := { top := pass.stack.top }, pen := {}, report := {} }

/-- A caller takes over from what has become of the pass that it handed down. -/
def resume (pass handed : Pass σ S) : Pass σ S :=
  { pass with
    surface := handed.surface
    shaders := handed.shaders
    clipId := handed.clipId
    report := pass.report.plus handed.report }

theorem entered_eq_atop (pass : Pass σ S) :
    { pass with stack := pass.stack.enter.2, pen := {} } =
      pass.inherited.atop (pass.stack.top :: pass.stack.below) pass.report := by
  have report : pass.report.plus {} = pass.report := by
    simp only [ReplayReport.plus, List.append_nil, Nat.add_zero]
  simp only [StateStack.enter_eq_above, atop, inherited, report]

theorem resume_inherited_resume (pass handed : Pass σ S) :
    pass.resume (pass.inherited.resume handed) = pass.resume handed := by
  have report : ({} : ReplayReport).plus handed.report = handed.report := by
    simp only [ReplayReport.plus, List.nil_append, Nat.zero_add]
  simp only [resume, inherited, report]

/-- A walk of a script that is referred to comes back to the caller with what it does to
what is inherited. -/
theorem followed_eq_resume {walk : Script → Pass σ S → Pass σ S}
    (balanced : ∀ script pass, (walk script pass).active = pass.active)
    (confining : Stage.Confining walk) (isLocal : ∀ script, Local (walk script))
    (script : Script) (pass : Pass σ S) :
    let after := walk script { pass with stack := pass.stack.enter.2, pen := {} }
    { after with pen := pass.pen, stack := after.stack.exit pass.stack.enter.1 } =
      pass.resume (walk script pass.inherited) := by
  intro after
  have walked : after = (walk script pass.inherited).atop (pass.stack.top :: pass.stack.below)
      pass.report := by
    rw [← isLocal, ← entered_eq_atop]
  have active : after.active = pass.active := balanced script _
  have returned : after.stack.exit pass.stack.enter.1 = pass.stack :=
    (confining script _ _ pass.stack.confined_enter).exit
  rw [returned, active, walked]
  rfl

end Pass

namespace Stage

open Pass (Local)

variable (stage : Stage σ S)

section Descend

variable {descend : Option (Script → Pass σ S → Pass σ S)}
  (balanced : ∀ walk ∈ descend, ∀ script pass, (walk script pass).active = pass.active)
  (confining : ∀ walk ∈ descend, Confining walk)
  (followed : ∀ walk ∈ descend, ∀ script, Local (walk script))

include balanced confining followed

/-- A reference does to the caller what it does to what is inherited. -/
theorem drawScript_eq_resume (caller target : String) (pass : Pass σ S) :
    stage.drawScript descend caller target pass =
      pass.resume (stage.drawScript descend caller target pass.inherited) := by
  have active : pass.inherited.active = pass.active := rfl
  unfold drawScript
  rw [active]
  split
  · rfl
  · cases descend with
    | none => rfl
    | some walk =>
        dsimp only
        cases stage.scripts.find? target with
        | none => rfl
        | some script =>
            have follow := Pass.followed_eq_resume (balanced walk rfl) (confining walk rfl)
              (followed walk rfl) script
            exact (follow pass).trans <| (pass.resume_inherited_resume _).symm.trans
              (congrArg pass.resume (follow pass.inherited).symm)

theorem local_drawScript (caller target : String) :
    Local (stage.drawScript descend caller target) := by
  intro kept earlier pass
  have inherits : (pass.atop kept earlier).inherited = pass.inherited := rfl
  rw [stage.drawScript_eq_resume balanced confining followed, inherits,
    stage.drawScript_eq_resume balanced confining followed caller target pass]
  simp only [Pass.resume, Pass.atop, ReplayReport.plus_assoc]

theorem local_perform (script : String) (instruction : Instruction) :
    Local (stage.perform descend script instruction) := by
  cases instruction with
  | popState => exact Pass.local_setStack script StateStack.pop?_above
  | popPushState => exact Pass.local_setStack script StateStack.popPush?_above
  | draw shape flags => exact (stage.isDraw_drawShape shape flags).isLocal
  | drawText text => exact (stage.isDraw_drawText text).isLocal
  | drawSprites image sprites => exact (stage.isDraw_drawSprites image sprites).isLocal
  | drawScript target => exact stage.local_drawScript balanced confining followed script target
  | fillPath => exact local_withPath script fun outline => (stage.isDraw_fill outline).isLocal
  | strokePath => exact local_withPath script fun outline => (stage.isDraw_stroke outline).isLocal
  | clipPath mode => exact Pass.local_clipPath script mode
  | _ => exact fun kept earlier pass => rfl

theorem local_foldl (script : String) (instructions : List Instruction) :
    Local fun pass => instructions.foldl (fun pass instruction =>
      stage.perform descend script instruction pass) pass := by
  induction instructions with
  | nil => exact Pass.local_id
  | cons first rest ih =>
      exact (stage.local_perform balanced confining followed script first).andThen ih

theorem local_walkWith (script : Script) : Local (stage.walkWith descend script) :=
  ((Pass.local_entering script.id).andThen
    (stage.local_foldl balanced confining followed script.id script.instructions)).andThen
      Pass.local_leaving

end Descend

/-- A walk neither sees nor touches the caller that it lies over. -/
theorem local_walk (levels : Nat) (script : Script) : Local (stage.walk levels script) := by
  induction levels generalizing script with
  | zero =>
      exact stage.local_walkWith (by rintro _ ⟨⟩) (by rintro _ ⟨⟩) (by rintro _ ⟨⟩) script
  | succ levels ih =>
      refine stage.local_walkWith (stage.active_below (levels + 1))
        (stage.confining_below (levels + 1)) ?_ script
      rintro walk ⟨⟩
      exact ih

theorem local_below (levels : Nat) :
    ∀ walk ∈ stage.below levels, ∀ script, Local (walk script) := by
  cases levels with
  | zero => rintro _ ⟨⟩
  | succ levels =>
      rintro walk ⟨⟩
      exact stage.local_walk levels

/-- A reference is a function of what is inherited: the caller adds to its own report what
the reference reports on the inherited part, and has the surface, the shader cache and the
clip identifiers from there. -/
theorem reference_eq_resume (levels : Nat) (script target : String) (pass : Pass σ S) :
    stage.perform (stage.below levels) script (.drawScript target) pass =
      pass.resume (stage.perform (stage.below levels) script (.drawScript target)
        pass.inherited) :=
  stage.drawScript_eq_resume (stage.active_below levels) (stage.confining_below levels)
    (stage.local_below levels) script target pass

end Stage

/-! ### Two callers -/

namespace Pass

/-- Two passes agree in the live state, the active scripts, the clip identifiers, the
shader cache and the surface. They may differ in all else: the entries below the live
state, the floor, the path under construction and the report. -/
structure SameInheritance (pass other : Pass σ S) : Prop where
  top : other.stack.top = pass.stack.top
  active : other.active = pass.active
  clipId : other.clipId = pass.clipId
  shaders : other.shaders = pass.shaders
  surface : other.surface = pass.surface

theorem SameInheritance.inherited {pass other : Pass σ S} (same : pass.SameInheritance other) :
    other.inherited = pass.inherited := by
  simp only [Pass.inherited, same.top, same.active, same.clipId, same.shaders, same.surface]

/-- The same pass, with the calls made of its surface written down from now on. -/
def traced (pass : Pass σ S) : Pass (σ × Trace S) S := { pass with surface := (pass.surface, []) }

theorem SameInheritance.traced {pass other : Pass σ S} (same : pass.SameInheritance other) :
    pass.traced.SameInheritance other.traced :=
  ⟨same.top, same.active, same.clipId, same.shaders, congrArg (·, []) same.surface⟩

end Pass

namespace Stage

variable (stage : Stage σ S)

/-- Callers that agree in what is inherited take over from the same pass. -/
theorem reference_alike (levels : Nat) (script target : String) {pass other : Pass σ S}
    (same : pass.SameInheritance other) :
    let reference := stage.perform (stage.below levels) script (.drawScript target)
    ∃ handed, reference pass = pass.resume handed ∧ reference other = other.resume handed := by
  refine ⟨_, stage.reference_eq_resume levels script target pass, ?_⟩
  rw [← same.inherited]
  exact stage.reference_eq_resume levels script target other

/-- The calls that a reference makes are written down on the side. -/
theorem reference_traced (levels : Nat) (script target : String) (pass : Pass σ S) :
    (stage.tracing.perform (stage.tracing.below levels) script (.drawScript target)
      pass.traced).view Prod.fst =
        stage.perform (stage.below levels) script (.drawScript target) pass := by
  have shows := stage.canvas.shows_tracing
  refine view_perform ?_ shows script (.drawScript target) pass.traced
  cases levels with
  | zero => exact .none
  | succ levels => exact .some fun script pass => view_walk shows levels script pass

/-- **A sub-script sees only what it inherits.** Let two passes agree in the live state, the
active scripts, the clip identifiers, the shader cache and the surface, and carry out the
same reference, however many levels are left. Then the same calls are made of the surface,
in the same order and with the same answers, and they leave the same surface, the same
shader cache and the same clip identifiers; and to both reports the same is added, warnings
as well as counts. -/
theorem reference_sees_inheritance (levels : Nat) (script target : String)
    {pass other : Pass σ S} (same : pass.SameInheritance other) :
    let reference := stage.perform (stage.below levels) script (.drawScript target)
    let traced := stage.tracing.perform (stage.tracing.below levels) script (.drawScript target)
    (reference other).surface = (reference pass).surface ∧
      (reference other).shaders = (reference pass).shaders ∧
      (reference other).clipId = (reference pass).clipId ∧
      (∃ added : ReplayReport, (reference pass).report = pass.report.plus added ∧
        (reference other).report = other.report.plus added) ∧
      ∃ calls : Trace S, (traced pass.traced).surface = ((reference pass).surface, calls) ∧
        (traced other.traced).surface = ((reference other).surface, calls) := by
  obtain ⟨handed, atPass, atOther⟩ := stage.reference_alike levels script target same
  obtain ⟨noted, tracedPass, tracedOther⟩ :=
    stage.tracing.reference_alike levels script target same.traced
  have plain : noted.surface.1 = handed.surface := by
    have seen := congrArg Pass.surface (stage.reference_traced levels script target pass)
    rwa [atPass, tracedPass] at seen
  have calls : noted.surface = (handed.surface, noted.surface.2) := Prod.ext plain rfl
  simp only [atPass, atOther, tracedPass, tracedOther]
  exact ⟨rfl, rfl, rfl, ⟨handed.report, rfl, rfl⟩, noted.surface.2, calls, calls⟩

/-- A script that pops, fills and refers on is drawn from the start of a pass, and from
within a path, on top of other entries, below a floor that lies higher than all of them. -/
theorem reference_sees_inheritance_of_leak :
    let scripts := ScriptStore.edited
      [.put "leaf" [.popState, .drawText "leaf", .drawScript "leaf"],
        .put "leak" [.popState, .fillPath, .pushState, .drawScript "leaf", .clipPath .intersect]]
    let stage : Stage Recording Nat :=
      { canvas := Recording.canvas, scripts, assets := {}, depthLimit := 64 }
    let pass : Pass Recording Nat := { surface := {}, shaders := {}, active := ["main"] }
    let other : Pass Recording Nat :=
      { pass with
        stack := { below := [{}, {}], floor := 9 }
        pen := Pen.moveTo ⟨1, 1⟩ {}
        report := { warnings := [.unsupportedPaint], visited := 3, draws := 5 } }
    let reference := stage.perform (stage.below 3) "main" (.drawScript "leak")
    pass.SameInheritance other ∧ (reference other).surface = (reference pass).surface ∧
      ∃ added : ReplayReport,
        added.warnings = [.unbalancedPop "leak", .emptyPath "leak", .unbalancedPop "leaf",
          .cycleDetected ["main", "leak", "leaf", "leaf"], .emptyPath "leak"] ∧
        added.visited = 2 ∧ added.draws = 1 ∧
        (reference pass).report = pass.report.plus added ∧
        (reference other).report = other.report.plus added := by
  intro scripts stage pass other reference
  have same : pass.SameInheritance other := ⟨rfl, rfl, rfl, rfl, rfl⟩
  obtain ⟨surfaces, -, -, ⟨added, atPass, atOther⟩, -⟩ :=
    stage.reference_sees_inheritance 3 "main" "leak" same
  have reported : added = (reference pass).report := by
    rw [show (reference pass).report = pass.report.plus added from atPass]
    simp only [pass, ReplayReport.plus, List.nil_append, Nat.zero_add]
  refine ⟨same, surfaces, added, ?_, ?_, ?_, atPass, atOther⟩ <;> rw [reported] <;> rfl

end Stage

end ScenePlayer
