import ScenePlayer.Proofs.Replay.ActiveChain
import ScenePlayer.Proofs.Replay.Confinement
import ScenePlayer.Proofs.Replay.Sketch
import ScenePlayer.Proofs.Replay.Warnings

/-!
Replays under two depth limits. The replay under the lower limit refuses references that
the other one follows. It goes ahead of the other one only by such an excursion, in which
more scripts are active than the lower limit allows, and after which the two agree again
on all that decides what is drawn (`Moment.Abreast`). So what the lower limit takes away
are the draws made below it. Where it refuses nothing, the replays are the same
(`Stage.run_of_unexceeded`).
-/

namespace ScenePlayer

variable {σ S : Type}

namespace Pass.Kin

variable {accepts : ShaderSource → Bool} {assets : AssetStore} {Fits : σ → Prop}
  {pass other : Pass (σ × Trace S) S}

section State

variable (kin : Kin accepts assets Fits pass other)

include kin

theorem scope : other.stack.enter.1 = pass.stack.enter.1 := by
  have entered := congrArg (fun stack => (StateStack.enter stack).1) kin.stack
  simpa only [StateStack.unnumbered_enter] using entered

/-- Both enter a script, in a scope and on a path of its own. -/
theorem enter (id : String) :
    Kin accepts assets Fits
      (Pass.entering id { pass with stack := pass.stack.enter.2, pen := {} })
      (Pass.entering id { other with stack := other.stack.enter.2, pen := {} }) := by
  have entered := congrArg (fun stack => (StateStack.enter stack).2) kin.stack
  simp only [StateStack.unnumbered_enter] at entered
  exact ⟨entered, rfl, congrArg (· ++ [id]) kin.active, kin.palette, kin.fits, kin.otherFits⟩

/-- Both leave a script and return to the caller. -/
theorem leave (caller : Option (Pen × Scope)) :
    Kin accepts assets Fits (pass.leaving.restoring caller) (other.leaving.restoring caller) := by
  have active : other.leaving.active = pass.leaving.active := congrArg List.dropLast kin.active
  cases caller with
  | none => exact ⟨kin.stack, kin.pen, active, kin.palette, kin.fits, kin.otherFits⟩
  | some caller =>
      obtain ⟨pen, scope⟩ := caller
      have exited : (other.stack.exit scope).unnumbered = (pass.stack.exit scope).unnumbered := by
        rw [StateStack.unnumbered_exit, StateStack.unnumbered_exit, kin.stack]
      exact ⟨exited, rfl, active, kin.palette, kin.fits, kin.otherFits⟩

end State

/-- When a reference has been carried out, a pass still agrees with whatever it agreed
with before. -/
theorem drawScript {stage : Stage σ S} (steady : stage.canvas.Steady accepts Fits)
    (kin : Kin accepts stage.assets Fits pass other) (levels : Nat) (caller target : String) :
    Kin accepts stage.assets Fits pass
      (stage.tracing.drawScript (stage.tracing.below levels) caller target other) := by
  have action : stage.tracing.Action
      (stage.tracing.drawScript (stage.tracing.below levels) caller target) := by
    refine stage.tracing.action_drawScript ?_ caller target
    intro walk followed script
    cases levels with
    | zero => cases followed
    | succ levels =>
        cases followed
        exact stage.tracing.action_walk levels script
  have fits := (action.keeps steady kin.otherFits).1
  have palette := Stage.Action.palette steady action kin.otherFits
  obtain ⟨surface, shaders, clipId, report, same⟩ :=
    stage.tracing.drawScript_eq (stage.tracing.active_below levels)
      (stage.tracing.confining_below levels) caller target other
  rw [same] at fits palette ⊢
  exact ⟨kin.stack, kin.pen, kin.active, palette.trans kin.palette, kin.fits, fits⟩

end Pass.Kin

/-- Issues while at most `bound` scripts are active. -/
def Issue.within (bound : Nat) (log : List (Issue S)) : List (Issue S) :=
  log.filter fun issue => decide (issue.active ≤ bound)

theorem Issue.within_issues {bound : Nat} {pass : Pass (σ × Trace S) S}
    (within : pass.active.length ≤ bound) (after : Pass (σ × Trace S) S) :
    Issue.within bound (pass.issues after) = pass.issues after := by
  refine List.filter_eq_self.2 ?_
  intro issue member
  obtain ⟨entry, -, rfl⟩ := List.mem_map.1 member
  exact decide_eq_true within

theorem Issue.within_append (bound : Nat) (log more : List (Issue S)) :
    Issue.within bound (log ++ more) = Issue.within bound log ++ Issue.within bound more :=
  List.filter_append log more

/-- Moments of the replays under the two limits at which they agree on all that decides
what is drawn. -/
inductive Moment.Abreast (accepts : ShaderSource → Bool) (assets : AssetStore) (Fits : σ → Prop)
    (bound : Nat) : Moment (σ × Trace S) S → Moment (σ × Trace S) S → Prop where
  | start (shaders : ShaderCache S) {surface : σ × Trace S} (fits : Fits surface.1) :
      Abreast accepts assets Fits bound (.start shaders surface) (.start shaders surface)
  | walking {activations : List Activation} {pass other : Pass (σ × Trace S) S}
      (kin : pass.Kin accepts assets Fits other) (count : activations.length = pass.active.length)
      (within : pass.active.length ≤ bound) :
      Abreast accepts assets Fits bound (.walking activations pass) (.walking activations other)
  | ended (answer otherAnswer : Except ReplayError ReplayReport × ShaderCache S × σ × Trace S) :
      Abreast accepts assets Fits bound (.ended answer) (.ended otherAnswer)

/-- From `other`, the replay under the higher limit gets abreast of `later`, and apart from
what is too deep it issues what `issues` says on the way. -/
def Moment.Catches (accepts : ShaderSource → Bool) (Fits : σ → Prop) (stage : Stage σ S)
    (limit : Nat) (root : String) (clear : Colour) (other later : Moment (σ × Trace S) S)
    (issues : List (Issue S)) : Prop :=
  ∃ otherLater log,
    (stage.withLimit limit).tracing.LeadsIssuing root clear other otherLater log ∧
      Abreast accepts stage.assets Fits (max stage.depthLimit 1) later otherLater ∧
      issues.map (Issue.plain stage.assets) =
        (Issue.within (max stage.depthLimit 1) log).map (Issue.plain stage.assets)

namespace Moment

variable {accepts : ShaderSource → Bool} {Fits : σ → Prop} {stage : Stage σ S} {limit : Nat}
  {root : String} {clear : Colour}

namespace Catches

variable {other between later : Moment (σ × Trace S) S} {issues more : List (Issue S)}

/-- What is abreast need not move. -/
theorem refl (abreast : Abreast accepts stage.assets Fits (max stage.depthLimit 1) later other) :
    Catches accepts Fits stage limit root clear other later [] :=
  ⟨other, [], .refl other, abreast, rfl⟩

/-- It is caught up with after a step that issues the same. -/
theorem step (next : (stage.withLimit limit).tracing.next root clear other = some between)
    (abreast : Abreast accepts stage.assets Fits (max stage.depthLimit 1) later between)
    (same : issues.map (Issue.plain stage.assets) =
      (Issue.within (max stage.depthLimit 1) (other.issues between)).map
        (Issue.plain stage.assets)) :
    Catches accepts Fits stage limit root clear other later issues :=
  ⟨between, other.issues between, .step next, abreast, same⟩

/-- It is caught up with from where a step leads that issues nothing. -/
theorem of_step (next : (stage.withLimit limit).tracing.next root clear other = some between)
    (none : other.issues between = [])
    (catches : Catches accepts Fits stage limit root clear between later issues) :
    Catches accepts Fits stage limit root clear other later issues := by
  obtain ⟨last, log, leads, abreast, same⟩ := catches
  refine ⟨last, _, (Stage.LeadsIssuing.step next).trans leads, abreast, ?_⟩
  rw [none, List.nil_append, same]

end Catches

section Steady

variable (steady : stage.canvas.Steady accepts Fits) {pass other : Pass (σ × Trace S) S}
  (kin : pass.Kin accepts stage.assets Fits other)

include steady kin

/-- An instruction that is no reference draws the same in both replays. -/
theorem catches_perform {script : Script} {instruction : Instruction} {rest : List Instruction}
    {caller : Option (Pen × Scope)} {outer : List Activation}
    (plain : instruction.reference? = none) (count : outer.length + 1 = pass.active.length)
    (within : pass.active.length ≤ max stage.depthLimit 1) :
    let performed := stage.tracing.perform none script.id instruction pass
    Catches accepts Fits stage limit root clear
      (.walking (⟨script, instruction :: rest, caller⟩ :: outer) other)
      (.walking (⟨script, rest, caller⟩ :: outer) performed) (pass.issues performed) := by
  intro performed
  obtain ⟨after, issues⟩ := kin.perform steady script.id plain
  have next : (stage.withLimit limit).tracing.next root clear
      (.walking (⟨script, instruction :: rest, caller⟩ :: outer) other) =
        some (.walking (⟨script, rest, caller⟩ :: outer)
          (stage.tracing.perform none script.id instruction other)) := by
    simp only [Stage.next, plain]
    rfl
  have active : performed.active = pass.active :=
    stage.tracing.active_perform (by rintro _ ⟨⟩) script.id instruction pass
  have otherWithin : other.active.length ≤ max stage.depthLimit 1 := by
    rwa [kin.active]
  refine .step next (.walking after ?_ ?_) ?_
  · rw [active]
    exact count
  · rwa [active]
  · rw [issues]
    simp only [Moment.issues, Issue.within_issues otherWithin]

variable (deeper : stage.depthLimit ≤ limit)

include deeper

/-- Of a reference that the lower limit refuses, the other replay makes an excursion: all
that it draws there is too deep, and it returns abreast. -/
theorem catches_of_exceeded {activations : List Activation} (nonempty : activations ≠ [])
    (count : activations.length = pass.active.length)
    (within : pass.active.length ≤ max stage.depthLimit 1) (caller : String) {target : String}
    (inactive : target ∉ pass.active) (exceeded : stage.depthLimit ≤ pass.active.length) :
    Catches accepts Fits stage limit root clear
      ((stage.withLimit limit).tracing.follow caller target activations other)
      (stage.tracing.follow caller target activations pass) [] := by
  have positive : 0 < pass.active.length := by
    rw [← count]
    exact List.length_pos_iff.2 nonempty
  have left : (stage.withLimit limit).tracing.HasLevels
      (max limit 1 - other.active.length) other := by
    rw [Stage.HasLevels, kin.active]
    refine ⟨List.length_pos_iff.1 positive, ?_⟩
    simp only [Stage.tracing, Stage.withCanvas, Stage.withLimit]
    omega
  have excursion : (stage.withLimit limit).tracing.LeadsThrough
      (Moment.Above other.active.length) root clear _ _ :=
    Stage.leads_drawScript (fun fewer _ => Stage.unfoldsAbove fewer) left caller target
      activations
  obtain ⟨log, leads, above⟩ := Stage.LeadsIssuing.of_above excursion
  have deepSteady : (stage.withLimit limit).canvas.Steady accepts Fits := steady
  have returned := kin.drawScript deepSteady (max limit 1 - other.active.length) caller target
  have tooDeep : Issue.within (max stage.depthLimit 1) log = [] := by
    refine List.filter_eq_nil_iff.2 ?_
    intro issue member
    have beyond := above issue member
    rw [kin.active] at beyond
    simp only [decide_eq_true_eq]
    omega
  have refused : stage.tracing.depthLimit ≤ pass.active.length := exceeded
  refine ⟨_, log, leads, ?_, ?_⟩
  · simp only [Stage.follow, inactive, refused, if_true, if_false]
    exact .walking ⟨returned.stack, returned.pen, returned.active, returned.palette,
      returned.fits, returned.otherFits⟩ count within
  · rw [tooDeep]


/-- References are followed or refused abreast. -/
theorem catches_follow {activations : List Activation} (nonempty : activations ≠ [])
    (count : activations.length = pass.active.length)
    (within : pass.active.length ≤ max stage.depthLimit 1) (caller target : String) :
    Catches accepts Fits stage limit root clear
      ((stage.withLimit limit).tracing.follow caller target activations other)
      (stage.tracing.follow caller target activations pass) [] := by
  by_cases active : target ∈ pass.active
  · simp only [Stage.follow, kin.active, active, if_true]
    exact .refl (.walking (kin.warn _ _) count within)
  · by_cases exceeded : stage.depthLimit ≤ pass.active.length
    · exact catches_of_exceeded steady kin deeper nonempty count within caller active exceeded
    · have otherActive : target ∉ other.active := by rwa [kin.active]
      have followed : ¬ limit ≤ other.active.length := by
        rw [kin.active]
        omega
      simp only [Stage.follow, active, otherActive, if_false, exceeded, followed,
        Stage.tracing, Stage.withCanvas, Stage.withLimit]
      cases stage.scripts.find? target with
      | none => exact .refl (.walking (kin.warn _ _) count within)
      | some script =>
          rw [kin.pen, kin.scope]
          refine .refl (.walking (kin.enter script.id) ?_ ?_)
          · simpa using count
          · simp only [Pass.active_entering, List.length_append, List.length_singleton]
            omega

end Steady

/-- Scripts are left abreast. -/
theorem catches_leave {pass other : Pass (σ × Trace S) S}
    (kin : pass.Kin accepts stage.assets Fits other) {script : Script}
    (caller : Option (Pen × Scope)) {outer : List Activation}
    (count : outer.length + 1 = pass.active.length)
    (within : pass.active.length ≤ max stage.depthLimit 1) :
    Catches accepts Fits stage limit root clear (.walking (⟨script, [], caller⟩ :: outer) other)
      (.walking outer (pass.leaving.restoring caller))
      (pass.issues (pass.leaving.restoring caller)) := by
  have none : ∀ pass : Pass (σ × Trace S) S,
      pass.issues (pass.leaving.restoring caller) = [] := by
    intro pass
    cases caller <;> exact Pass.issues_of_same rfl
  have active : (pass.leaving.restoring caller).active.length = outer.length := by
    rw [Stage.active_restoring, Pass.active_leaving, List.length_dropLast, ← count,
      Nat.add_sub_cancel]
  refine .step rfl (.walking (kin.leave caller) active.symm ?_) ?_
  · omega
  · simp only [Moment.issues, none]
    rfl

/-- Frames are begun alike. -/
theorem catches_start (steady : stage.canvas.Steady accepts Fits) {shaders : ShaderCache S}
    {surface : σ × Trace S} (fits : Fits surface.1) {later : Moment (σ × Trace S) S}
    (next : stage.tracing.next root clear (.start shaders surface) = some later) :
    Catches accepts Fits stage limit root clear (.start shaders surface) later [] := by
  have same : (stage.withLimit limit).tracing.next root clear (.start shaders surface) =
      some later := next
  refine .step same ?_ rfl
  have begins : Fits (stage.tracing.canvas.beginFrame clear surface).2.1 :=
    steady.beginFrame clear surface.1 fits
  simp only [Stage.next] at next
  generalize stage.tracing.canvas.beginFrame clear surface = opening at begins next
  split at next
  · cases next
    exact .ended _ _
  · split at next <;> cases next
    · exact .ended _ _
    · refine .walking (.refl begins) ?_ ?_
      · simp
      · simp only [Pass.active_entering, List.nil_append, List.length_singleton]
        omega

/-- Frames are ended, with whatever answers. -/
theorem catches_end {pass other : Pass (σ × Trace S) S} {later : Moment (σ × Trace S) S}
    (next : stage.tracing.next root clear (.walking [] pass) = some later) :
    Catches accepts Fits stage limit root clear (.walking [] other) later
      (Moment.issues (.walking [] pass) later) := by
  have ended : ∀ pass : Pass (σ × Trace S) S, ∃ answer,
      stage.tracing.next root clear (.walking [] pass) = some (.ended answer) := by
    intro pass
    simp only [Stage.next]
    split <;> exact ⟨_, rfl⟩
  obtain ⟨answer, finished⟩ := ended pass
  obtain ⟨otherAnswer, otherFinished⟩ := ended other
  cases finished.symm.trans next
  exact .step otherFinished (.ended _ _) rfl

variable (steady : stage.canvas.Steady accepts Fits) (deeper : stage.depthLimit ≤ limit)

include steady deeper

namespace Abreast

/-- Whatever the replay under the lower limit does in one step, the other one follows in
some number of steps. Apart from what is too deep, both issue the same. -/
theorem next {moment other later : Moment (σ × Trace S) S}
    (abreast : Abreast accepts stage.assets Fits (max stage.depthLimit 1) moment other)
    (next : stage.tracing.next root clear moment = some later) :
    Catches accepts Fits stage limit root clear other later (moment.issues later) := by
  cases abreast with
  | ended => cases next
  | start shaders fits => exact catches_start steady fits next
  | @walking activations pass other kin count within =>
      cases activations with
      | nil => exact catches_end next
      | cons activation outer =>
          obtain ⟨script, rest, caller⟩ := activation
          cases rest with
          | nil =>
              cases next
              exact catches_leave kin caller count within
          | cons instruction rest =>
              simp only [Stage.next] at next
              cases refers : instruction.reference? with
              | none =>
                  rw [refers] at next
                  cases next
                  exact catches_perform steady kin refers count within
              | some target =>
                  rw [refers] at next
                  cases next
                  let waiting : List Activation := ⟨script, rest, caller⟩ :: outer
                  have waits : waiting.length = pass.active.length := count
                  have refer : (stage.withLimit limit).tracing.next root clear
                      (.walking (⟨script, instruction :: rest, caller⟩ :: outer) other) =
                        some ((stage.withLimit limit).tracing.follow script.id target waiting
                          other) := by
                    simp only [Stage.next, refers]
                    rfl
                  have followed : Catches accepts Fits stage limit root clear
                      ((stage.withLimit limit).tracing.follow script.id target waiting other)
                      (stage.tracing.follow script.id target waiting pass) [] :=
                    catches_follow steady kin deeper (List.cons_ne_nil _ _) waits within script.id
                      target
                  have none := (stage.draws_follow script.id target waiting
                    (⟨script, instruction :: rest, caller⟩ :: outer) pass).2
                  have otherNone := ((stage.withLimit limit).draws_follow script.id target waiting
                    (⟨script, instruction :: rest, caller⟩ :: outer) other).2
                  rw [none]
                  exact followed.of_step refer otherNone

/-- Any number of steps is followed. -/
theorem after (steps : Nat) {moment other : Moment (σ × Trace S) S}
    (abreast : Abreast accepts stage.assets Fits (max stage.depthLimit 1) moment other) :
    Catches accepts Fits stage limit root clear other
      (stage.tracing.after root clear steps moment)
      (stage.tracing.issued root clear steps moment) := by
  induction steps generalizing moment other with
  | zero => exact .refl abreast
  | succ steps ih =>
      cases step : stage.tracing.next root clear moment with
      | none => simpa only [Stage.after, Stage.issued, step] using .refl abreast
      | some later =>
          obtain ⟨between, log, leads, abreast, issues⟩ := abreast.next steady deeper step
          obtain ⟨last, more, further, abreast, others⟩ := ih abreast
          simp only [Stage.after, Stage.issued, step]
          refine ⟨last, log ++ more, leads.trans further, abreast, ?_⟩
          rw [List.map_append, Issue.within_append, List.map_append, issues, others]

end Abreast

end Moment

/-- **A depth limit leaves out what lies below it, and nothing else.** Let a surface accept
or decline a shader by its source. Whatever the scripts, the assets and the cache, the draws
that a replay issues are those of the replay under a higher limit, in the same order, without
the ones that are issued while more scripts are active than the lower limit allows: the same
calls in the same states with the same sources of paint, apart from the identifiers of
clips. If the replay refuses no reference for its depth, the replay under the higher limit
makes the same calls, answers and reports the same, and leaves the same cache. -/
theorem depth_limit_leaves_out_deeper_draws {stage : Stage σ S}
    {accepts : ShaderSource → Bool} {Fits : σ → Prop} (steady : stage.canvas.Steady accepts Fits)
    {limit : Nat} (deeper : stage.depthLimit ≤ limit) (root : String) (clear : Colour)
    (shaders : ShaderCache S) {surface : σ} (fits : Fits surface) :
    let run := stage.tracing.run root clear shaders (surface, [])
    let deepRun := (stage.withLimit limit).tracing.run root clear shaders (surface, [])
    let start := Moment.start shaders (surface, [])
    (∃ log deepLog,
      stage.tracing.LeadsIssuing root clear start (.ended run) log ∧
        (stage.withLimit limit).tracing.LeadsIssuing root clear start (.ended deepRun) deepLog ∧
        log.map Issue.call = run.2.2.2.draws.map Prod.fst ∧
        deepLog.map Issue.call = deepRun.2.2.2.draws.map Prod.fst ∧
        log.map (Issue.plain stage.assets) =
          (deepLog.filter fun issue => decide (issue.active ≤ max stage.depthLimit 1)).map
            (Issue.plain stage.assets)) ∧
      (∀ report, run.1 = .ok report →
        report.warnings = stage.tracing.warned root clear shaders (surface, [])) ∧
      (Unexceeded (stage.tracing.warned root clear shaders (surface, [])) → deepRun = run) := by
  intro run deepRun start
  have ended : stage.tracing.Leads root clear start (.ended run) := Stage.leads_run _ _
  have deepEnded : (stage.withLimit limit).tracing.Leads root clear start (.ended deepRun) :=
    Stage.leads_run _ _
  refine ⟨?_, fun report reported => Stage.warnings_run reported, ?_⟩
  · obtain ⟨steps, ends⟩ := ended
    have begins : Moment.Abreast accepts stage.assets Fits (max stage.depthLimit 1) start start :=
      .start shaders fits
    obtain ⟨later, deepLog, leads, abreast, same⟩ := begins.after steady deeper steps
    rw [ends] at abreast
    cases abreast with
    | ended _ answer =>
        obtain ⟨deepSteps, deepEnds, -⟩ := id leads
        obtain rfl : answer = deepRun := Stage.Leads.ended_unique ⟨deepSteps, deepEnds⟩ deepEnded
        have issuing : stage.tracing.LeadsIssuing root clear start (.ended run)
            (stage.tracing.issued root clear steps start) := ⟨steps, ends, rfl⟩
        exact ⟨_, deepLog, issuing, leads, issuing.calls, leads.calls, same⟩
  · intro unexceeded
    have limited : stage.tracing.depthLimit ≤ limit := deeper
    have same : (stage.tracing.withLimit limit).run root clear shaders (surface, []) = run :=
      Stage.run_of_unexceeded limited unexceeded
    exact same

/-- A script with text draws another one, which draws a third one. Under a limit of two, the
text of the third one is missing, and the clip that follows has another identifier. -/
theorem depth_limit_leaves_out_deeper_draws_of_chain :
    let scripts := ScriptStore.edited
      [.put "top" [.drawScript "middle", .scissor 2 2, .drawText "top"],
        .put "middle" [.drawScript "deep", .drawText "middle"],
        .put "deep" [.scissor 1 1, .drawText "deep"]]
    let stage : Stage Recording Nat :=
      { canvas := Recording.canvas, scripts, assets := {}, depthLimit := 2 }
    let start := Moment.start {} ({}, [])
    stage.canvas.Steady (fun source => decide (source.kind ∉ []))
        (fun surface => surface.declined = []) ∧
      stage.depthLimit ≤ 3 ∧
      ∃ log deepLog, ∃ answer deepAnswer,
        stage.tracing.LeadsIssuing "top" .black start (.ended answer) log ∧
          (stage.withLimit 3).tracing.LeadsIssuing "top" .black start (.ended deepAnswer) deepLog ∧
          log.length = 2 ∧ deepLog.length = 3 ∧
          log.map (Issue.plain {}) =
            (deepLog.filter fun issue => decide (issue.active ≤ 2)).map (Issue.plain {}) := by
  intro scripts stage start
  have steady : stage.canvas.Steady (fun source => decide (source.kind ∉ []))
      (fun surface => surface.declined = []) := Recording.steady_canvas []
  have deeper : stage.depthLimit ≤ 3 := by decide
  have fits : ({} : Recording).declined = [] := rfl
  obtain ⟨⟨log, deepLog, leads, deepLeads, calls, deepCalls, same⟩, -, -⟩ :=
    depth_limit_leaves_out_deeper_draws steady deeper "top" .black {} fits
  have two : (stage.tracing.run "top" .black {} ({}, [])).2.2.2.draws.length = 2 := by
    decide +kernel
  have three :
      ((stage.withLimit 3).tracing.run "top" .black {} ({}, [])).2.2.2.draws.length = 3 := by
    decide +kernel
  refine ⟨steady, deeper, log, deepLog, _, _, leads, deepLeads, ?_, ?_, same⟩
  · simpa only [List.length_map, two] using congrArg List.length calls
  · simpa only [List.length_map, three] using congrArg List.length deepCalls

end ScenePlayer
