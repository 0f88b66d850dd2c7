import ScenePlayer.Proofs.Replay.Moment
import ScenePlayer.Proofs.Scene.Repetition
import ScenePlayer.Proofs.State.Unnumbered

/-!
The draws of a replay, one by one. Each is issued by a step of the replay
(`Moment.issues`), while some number of scripts is active and in some state. What is
issued on the way from the start to the end of a replay is what its trace shows to be
drawn (`draws_issued`). To compare frames that have shaders and clip identifiers of
their own, `Issue.plain` replaces both by what they stand for.
-/

namespace ScenePlayer

variable {σ S : Type}

/-- A draw as it is issued. -/
structure Issue (S : Type) where
  /-- The number of scripts that are active. -/
  active : Nat
  /-- The top state. -/
  state : DrawState
  call : CanvasCall S

/-- An ink whose shader is replaced by the source that it is built from. -/
def Ink.plain (source : Option ShaderSource) : Ink S → Ink (Option ShaderSource)
  | .solid colour => .solid colour
  | .shader _ => .shader source

/-- What a call draws in a state, told by the source of its paint and by clips without
identifiers. -/
def CanvasCall.plain (assets : AssetStore) (state : DrawState) :
    CanvasCall S → CanvasCall (Option ShaderSource)
  | .fill outline ink place =>
      .fill outline (ink.plain (assets.source? state.fill)) place.unnumbered
  | .stroke outline ink style place =>
      .stroke outline (ink.plain (assets.source? state.stroke)) style place.unnumbered
  | .text run ink place => .text run (ink.plain (assets.source? state.fill)) place.unnumbered
  | .sprite picture part place => .sprite picture part place.unnumbered
  | .beginFrame clear => .beginFrame clear
  | .buildShader source _ => .buildShader source none
  | .endFrame => .endFrame

/-- An issue apart from what differs from frame to frame. -/
def Issue.plain (assets : AssetStore) (issue : Issue S) : Issue (Option ShaderSource) where
  active := issue.active
  state := issue.state.unnumbered
  call := issue.call.plain assets issue.state

/-- The draws that a pass has issued in its state when it has become `after`. -/
def Pass.issues (pass after : Pass (σ × Trace S) S) : List (Issue S) :=
  (Trace.draws (after.surface.2.drop pass.surface.2.length)).map fun entry =>
    ⟨pass.active.length, pass.stack.top, entry.1⟩

/-- The draws that a step issues. -/
def Moment.issues : Moment (σ × Trace S) S → Moment (σ × Trace S) S → List (Issue S)
  | .walking _ pass, .walking _ after => pass.issues after
  | _, _ => []

/-- The calls written down so far. -/
def Moment.trace : Moment (σ × Trace S) S → Trace S
  | .start _ surface => surface.2
  | .walking _ pass => pass.surface.2
  | .ended (_, _, surface) => surface.2

theorem Pass.issues_of_trace {pass after : Pass (σ × Trace S) S} {calls : List (CanvasCall S)}
    (trace : after.surface.2 = pass.surface.2 ++ calls.map CanvasCall.succeeded) :
    pass.issues after = (calls.filter CanvasCall.isDraw).map fun call =>
      ⟨pass.active.length, pass.stack.top, call⟩ := by
  rw [issues, trace, List.drop_left, Trace.draws, List.filter_map, List.map_map]
  rfl

theorem Pass.issues_of_same {pass after : Pass (σ × Trace S) S}
    (same : after.surface = pass.surface) : pass.issues after = [] := by
  have trace : after.surface.2 = pass.surface.2 ++ List.map CanvasCall.succeeded [] := by
    rw [same, List.map_nil, List.append_nil]
  exact Pass.issues_of_trace trace

namespace Stage

/-- The draws that a number of steps issue. -/
def issued (stage : Stage (σ × Trace S) S) (root : String) (clear : Colour) :
    Nat → Moment (σ × Trace S) S → List (Issue S)
  | 0, _ => []
  | steps + 1, moment =>
      match stage.next root clear moment with
      | none => []
      | some later => moment.issues later ++ issued stage root clear steps later

section Steps

variable {stage : Stage (σ × Trace S) S} {root : String} {clear : Colour}

theorem issued_add (first second : Nat) (moment : Moment (σ × Trace S) S) :
    stage.issued root clear (first + second) moment =
      stage.issued root clear first moment ++
        stage.issued root clear second (stage.after root clear first moment) := by
  induction first generalizing moment with
  | zero => simp [issued, after]
  | succ first ih =>
      rw [Nat.succ_add]
      cases step : stage.next root clear moment with
      | none => cases second <;> simp [issued, after, step]
      | some later => simp only [issued, after, step, ih, List.append_assoc]

/-- What is issued while many scripts are active. -/
theorem issued_above {count steps : Nat} {moment : Moment (σ × Trace S) S}
    (above : ∀ earlier < steps, (stage.after root clear earlier moment).Above count) :
    ∀ issue ∈ stage.issued root clear steps moment, count < issue.active := by
  induction steps generalizing moment with
  | zero => simp [issued]
  | succ steps ih =>
      intro issue member
      cases step : stage.next root clear moment with
      | none => simp [issued, step] at member
      | some later =>
          simp only [issued, step, List.mem_append] at member
          rcases member with here | further
          · have now : moment.Above count := above 0 (Nat.succ_pos steps)
            cases moment with
            | walking activations pass =>
                cases later with
                | walking others after =>
                    obtain ⟨entry, -, rfl⟩ := List.mem_map.1 here
                    exact now
                | _ => cases here
            | _ => cases now
          · refine ih ?_ issue further
            intro earlier before
            have next := above (earlier + 1) (Nat.succ_lt_succ before)
            simpa only [after, step] using next

end Steps

/-- Some number of steps leads from one moment to another and issues these draws. -/
def LeadsIssuing (stage : Stage (σ × Trace S) S) (root : String) (clear : Colour)
    (moment later : Moment (σ × Trace S) S) (log : List (Issue S)) : Prop :=
  ∃ steps, stage.after root clear steps moment = later ∧
    stage.issued root clear steps moment = log

namespace LeadsIssuing

variable {stage : Stage (σ × Trace S) S} {root : String} {clear : Colour}
  {first second third : Moment (σ × Trace S) S} {log more : List (Issue S)}

theorem refl (moment : Moment (σ × Trace S) S) :
    stage.LeadsIssuing root clear moment moment [] := ⟨0, rfl, rfl⟩

theorem step (next : stage.next root clear first = some second) :
    stage.LeadsIssuing root clear first second (first.issues second) := by
  refine ⟨1, ?_, ?_⟩
  · simp [after, next]
  · simp [issued, next]

theorem trans (left : stage.LeadsIssuing root clear first second log)
    (right : stage.LeadsIssuing root clear second third more) :
    stage.LeadsIssuing root clear first third (log ++ more) := by
  obtain ⟨m, rfl, rfl⟩ := left
  obtain ⟨n, rfl, rfl⟩ := right
  exact ⟨m + n, after_add m n first, issued_add m n first⟩

/-- Nothing is issued above a number of active scripts that is exceeded throughout. -/
theorem of_above {count : Nat}
    (through : stage.LeadsThrough (Moment.Above count) root clear first second) :
    ∃ log, stage.LeadsIssuing root clear first second log ∧
      ∀ issue ∈ log, count < issue.active := by
  obtain ⟨steps, arrives, above⟩ := through
  exact ⟨_, ⟨steps, arrives, rfl⟩, issued_above above⟩

end LeadsIssuing

section Trace

variable {stage : Stage σ S} {root : String} {clear : Colour}

/-- A reference issues nothing by itself. -/
theorem draws_follow (caller target : String) (activations others : List Activation)
    (pass : Pass (σ × Trace S) S) :
    let later := stage.tracing.follow caller target activations pass
    later.trace = pass.surface.2 ∧ (Moment.walking others pass).issues later = [] := by
  simp only [follow]
  split
  · exact ⟨rfl, Pass.issues_of_same rfl⟩
  · split
    · exact ⟨rfl, Pass.issues_of_same rfl⟩
    · cases stage.tracing.scripts.find? target <;> exact ⟨rfl, Pass.issues_of_same rfl⟩

/-- A frame starts without a draw. -/
theorem draws_beginFrame (canvas : Canvas σ S) (clear : Colour) (state : σ × Trace S) :
    Trace.draws (canvas.tracing.beginFrame clear state).2.2 = Trace.draws state.2 := by
  simp [Canvas.beginFrame_tracing, Trace.draws, CanvasCall.isDraw]

/-- A frame ends without a draw. -/
theorem draws_endFrame (canvas : Canvas σ S) (state : σ × Trace S) :
    Trace.draws (canvas.tracing.endFrame state).2.2 = Trace.draws state.2 := by
  simp [Canvas.endFrame_tracing, Trace.draws, CanvasCall.isDraw]

/-- A step writes down the draws that it issues, and no others. -/
theorem draws_next {moment later : Moment (σ × Trace S) S}
    (next : stage.tracing.next root clear moment = some later) :
    later.trace.draws.map Prod.fst =
      moment.trace.draws.map Prod.fst ++ (moment.issues later).map Issue.call := by
  have unissued : ∀ {before after : Trace S} {issues : List (Issue S)},
      after.draws = before.draws → issues = [] → after.draws.map Prod.fst =
        before.draws.map Prod.fst ++ issues.map Issue.call := by
    intro before after issues same none
    rw [same, none, List.map_nil, List.append_nil]
  cases moment with
  | start shaders surface =>
      have opened := draws_beginFrame stage.canvas clear surface
      simp only [Stage.next, tracing, withCanvas] at next
      generalize stage.canvas.tracing.beginFrame clear surface = opening at opened next
      split at next
      · cases next
        exact unissued rfl rfl
      · split at next <;> cases next <;> exact unissued opened rfl
  | walking activations pass =>
      cases activations with
      | nil =>
          have closed := draws_endFrame stage.canvas pass.surface
          simp only [Stage.next, tracing, withCanvas] at next
          generalize stage.canvas.tracing.endFrame pass.surface = closing at closed next
          split at next <;> cases next <;> exact unissued closed rfl
      | cons activation outer =>
          obtain ⟨script, rest, caller⟩ := activation
          cases rest with
          | nil =>
              cases next
              cases caller <;> exact unissued rfl (Pass.issues_of_same rfl)
          | cons instruction rest =>
              simp only [Stage.next] at next
              cases refers : instruction.reference? with
              | some target =>
                  rw [refers] at next
                  cases next
                  obtain ⟨trace, none⟩ := stage.draws_follow script.id target
                    (⟨script, rest, caller⟩ :: outer)
                    (⟨script, instruction :: rest, caller⟩ :: outer) pass
                  exact unissued (congrArg Trace.draws trace) none
              | none =>
                  rw [refers] at next
                  cases next
                  have action : stage.tracing.Action
                      (stage.tracing.perform none script.id instruction) :=
                    stage.tracing.action_perform (by rintro _ ⟨⟩) script.id instruction
                  obtain ⟨calls, tally⟩ := action.tally pass
                  have issued := Pass.issues_of_trace tally.trace
                  simp only [Moment.trace, Moment.issues, issued, tally.trace, Trace.draws,
                    List.filter_append, List.map_append, List.map_map, List.filter_map]
                  rfl
  | ended answer => cases next

/-- The draws of a trace are those that have been issued. -/
theorem draws_issued (steps : Nat) (moment : Moment (σ × Trace S) S) :
    (stage.tracing.after root clear steps moment).trace.draws.map Prod.fst =
      moment.trace.draws.map Prod.fst ++
        (stage.tracing.issued root clear steps moment).map Issue.call := by
  induction steps generalizing moment with
  | zero => simp [issued, after]
  | succ steps ih =>
      cases step : stage.tracing.next root clear moment with
      | none => simp [issued, after, step]
      | some later =>
          simp only [issued, after, step, ih, draws_next step, List.map_append, List.append_assoc]

/-- The draws issued up to the end of a replay are those of its trace. -/
theorem LeadsIssuing.calls {shaders : ShaderCache S} {surface : σ} {log : List (Issue S)}
    {answer : Except ReplayError ReplayReport × ShaderCache S × σ × Trace S}
    (leads : stage.tracing.LeadsIssuing root clear (.start shaders (surface, []))
      (.ended answer) log) :
    log.map Issue.call = answer.2.2.2.draws.map Prod.fst := by
  obtain ⟨steps, ends, rfl⟩ := leads
  have draws : (stage.tracing.after root clear steps (.start shaders (surface, []))).trace.draws.map
      Prod.fst = _ := stage.draws_issued steps (.start shaders (surface, []))
  rw [ends] at draws
  exact draws.symm

end Trace

end Stage

end ScenePlayer
