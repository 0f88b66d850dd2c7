import ScenePlayer.Proofs.Paint.Supply
import ScenePlayer.Proofs.Replay.Action
import ScenePlayer.Proofs.Scene.Freshness

/-!
The calls that a frame makes. Within a frame a pass asks for shaders and draws, counts
each draw, and leaves the frame counter of its shader cache alone (`Stage.Action.tally`).
So a whole frame takes one of four courses, by how far it gets
(`frame_takes_one_of_four_courses`).
-/

namespace ScenePlayer

variable {σ S : Type}

/-- What a pass on a tracing canvas adds to its trace: calls within the frame, of which
the draws are counted. -/
structure Pass.Tally (before : Pass (σ × Trace S) S) (calls : List (CanvasCall S))
    (after : Pass (σ × Trace S) S) : Prop where
  trace : after.surface.2 = before.surface.2 ++ calls.map CanvasCall.succeeded
  inner : ∀ call ∈ calls, call.isInner = true
  draws : after.report.draws = before.report.draws + calls.countP CanvasCall.isDraw
  frame : after.shaders.frame = before.shaders.frame

namespace Pass.Tally

variable {first second third : Pass (σ × Trace S) S} {calls more : List (CanvasCall S)}

theorem trans (left : first.Tally calls second) (right : second.Tally more third) :
    first.Tally (calls ++ more) third where
  trace := by rw [right.trace, left.trace, List.map_append, List.append_assoc]
  inner := List.forall_mem_append.2 ⟨left.inner, right.inner⟩
  draws := by rw [right.draws, left.draws, List.countP_append, Nat.add_assoc]
  frame := right.frame.trans left.frame

theorem of_quiet {change : Pass (σ × Trace S) S → Pass (σ × Trace S) S}
    (quiet : Pass.Quiet change)
    (uncounted : ∀ pass, (change pass).report.draws = pass.report.draws)
    (pass : Pass (σ × Trace S) S) : pass.Tally [] (change pass) where
  trace := by rw [quiet.surface, List.map_nil, List.append_nil]
  inner := List.forall_mem_nil _
  draws := uncounted pass
  frame := congrArg ShaderCache.frame (quiet.shaders pass)

end Pass.Tally

namespace Stage

variable {stage : Stage σ S}

variable (stage) in
/-- Resolving a paint makes one request at most, and goes on with the same frame. -/
theorem tally_resolved (slot : PaintSlot) (pass : Pass (σ × Trace S) S) :
    ∃ calls, pass.Tally calls (stage.tracing.resolved slot pass) := by
  have frame : (stage.tracing.resolution slot pass).2.1.frame = pass.shaders.frame :=
    (ShaderCache.supplied_resolve _ _ _ _ _).frame
  rcases ShaderCache.resolve_surface stage.tracing.canvas.buildShader stage.assets
    (pass.stack.top.paint slot) pass.shaders pass.surface with same | ⟨source, -, same⟩
  · refine ⟨[], ?_, List.forall_mem_nil _, rfl, frame⟩
    exact (congrArg Prod.snd same).trans (List.append_nil _).symm
  · let shader := (stage.canvas.buildShader source pass.surface.1).1
    refine ⟨[.buildShader source shader], ?_, List.forall_mem_singleton.2 rfl, rfl, frame⟩
    exact congrArg Prod.snd same

/-- What a pass does within a frame is traced and counted. -/
theorem Action.tally {change : Pass (σ × Trace S) S → Pass (σ × Trace S) S}
    (action : stage.tracing.Action change) (pass : Pass (σ × Trace S) S) :
    ∃ calls, pass.Tally calls (change pass) := by
  induction action generalizing pass with
  | quiet quiet uncounted => exact ⟨[], .of_quiet quiet uncounted pass⟩
  | @draws calls drawn =>
      refine ⟨calls, ?_, fun call member => CanvasCall.isInner_of_isDraw (drawn call member), ?_,
        rfl⟩
      · exact congrArg Prod.snd (stage.canvas.draws_tracing drawn pass.surface)
      · exact congrArg _ (List.countP_eq_length.2 drawn).symm
  | @withInk slot draw _ ih =>
      obtain ⟨requests, resolved⟩ := tally_resolved stage slot pass
      rw [withInk_eq]
      split
      · rename_i ink _
        obtain ⟨calls, drawn⟩ := ih ink _
        exact ⟨_, resolved.trans drawn⟩
      · exact ⟨_, resolved.trans (.of_quiet (Pass.quiet_warn _) (fun _ => rfl) _)⟩
  | andThen _ _ first second =>
      obtain ⟨calls, left⟩ := first pass
      obtain ⟨more, right⟩ := second _
      exact ⟨calls ++ more, left.trans right⟩
  | choose choice _ same ih =>
      obtain ⟨calls, chosen⟩ := ih pass pass
      exact ⟨calls, (same pass pass.surface pass.shaders).symm ▸ chosen⟩

end Stage

/-- What comes of a frame on a tracing canvas: the answer, the scene and the surface left,
and the calls made of the surface. -/
structure TracedFrame (σ S : Type) where
  answer : Except ReplayError ReplayReport
  after : Scene S
  drawn : σ
  trace : Trace S

namespace Scene

/-- Replay a frame, and write down the calls that it makes. -/
def tracedFrame (canvas : Canvas σ S) (scene : Scene S) (surface : σ) : TracedFrame σ S :=
  let (answer, after, drawn, trace) := scene.replayFrame canvas.tracing (surface, [])
  { answer, after, drawn, trace }

/-- What is traced is the frame itself. -/
theorem replayFrame_eq_traced (canvas : Canvas σ S) (scene : Scene S) (surface : σ) :
    let frame := scene.tracedFrame canvas surface
    scene.replayFrame canvas surface = (frame.answer, frame.after, frame.drawn) := by
  have shows : canvas.tracing.Shows Prod.fst (scene.stage canvas).canvas := canvas.shows_tracing
  have replayed := Stage.replay_view shows scene.clearColour scene.shaders (surface, [])
  exact congrArg (fun outcome => (outcome.1, { scene with shaders := outcome.2.1 }, outcome.2.2))
    replayed

/-- The pass with which a traced frame starts. -/
def opening (scene : Scene S) (opened : σ) : Pass (σ × Trace S) S where
  surface := (opened, [(.beginFrame scene.clearColour, .ok ())])
  shaders := scene.shaders

/-- The pass that is left when a traced frame has walked its root. -/
def walked (canvas : Canvas σ S) (scene : Scene S) (script : Script) (opened : σ) :
    Pass (σ × Trace S) S :=
  (scene.stage canvas).tracing.walk (scene.depthLimit - 1) script (scene.opening opened)

section Root

variable {canvas : Canvas σ S} {scene : Scene S} {script : Script}
  (root : scene.scripts.root = some rootId) (found : scene.scripts.find? rootId = some script)
  {surface opened : σ}

include root found

theorem tracedFrame_of_unbegun {error : CanvasError}
    (fails : canvas.beginFrame scene.clearColour surface = (.error error, opened)) :
    scene.tracedFrame canvas surface =
      ⟨.error (.canvas error), scene, opened, [(.beginFrame scene.clearColour, .error error)]⟩ := by
  simp only [tracedFrame, replayFrame, Stage.replay, stage, root, Stage.run, found,
    Canvas.beginFrame_tracing, fails, List.nil_append]

/-- A frame that begins walks its root, and then ends or fails to end. -/
theorem tracedFrame_of_begun
    (begun : canvas.beginFrame scene.clearColour surface = (.ok (), opened)) :
    let done := scene.walked canvas script opened
    let ended := canvas.endFrame done.surface.1
    scene.tracedFrame canvas surface =
      { answer := (ended.1.mapError .canvas).map fun _ => done.report
        after := { scene with
          shaders := match ended.1 with
            | .ok () => done.shaders.endFrame.2
            | .error _ => done.shaders }
        drawn := ended.2
        trace := done.surface.2 ++ [(.endFrame, ended.1)] } := by
  intro done ended
  have begins : canvas.tracing.beginFrame scene.clearColour (surface, []) =
      (.ok (), opened, [(.beginFrame scene.clearColour, .ok ())]) := by
    rw [Canvas.beginFrame_tracing, begun, List.nil_append]
  have same : (scene.stage canvas.tracing).walk (scene.depthLimit - 1) script
      { surface := (opened, [(.beginFrame scene.clearColour, .ok ())]), shaders := scene.shaders } =
        done := rfl
  simp only [tracedFrame, replayFrame, Stage.replay, stage, root, Stage.run, found, begins]
    at same ⊢
  simp only [same, Canvas.endFrame_tracing, ended]
  rcases canvas.endFrame done.surface.1 with ⟨error | ⟨⟨⟩⟩, drawn⟩ <;> rfl

end Root

/-- How a frame goes, by how far it gets. -/
inductive FrameCourse (scene : Scene S) : TracedFrame σ S → Prop where
  | rootless (absent : scene.scripts.contains rootId = false) (drawn : σ) :
      FrameCourse scene
        { answer := .error .missingRoot
          after := scene
          drawn
          trace := [] }
  | unbegun (stored : scene.scripts.contains rootId = true) (error : CanvasError) (drawn : σ) :
      FrameCourse scene
        { answer := .error (.canvas error)
          after := scene
          drawn
          trace := [(.beginFrame scene.clearColour, .error error)] }
  | unfinished (stored : scene.scripts.contains rootId = true) {calls : List (CanvasCall S)}
      (inner : ∀ call ∈ calls, call.isInner = true) (error : CanvasError)
      {shaders : ShaderCache S} (frame : shaders.frame = scene.shaders.frame) (drawn : σ) :
      FrameCourse scene
        { answer := .error (.canvas error)
          after := { scene with shaders }
          drawn
          trace := (.beginFrame scene.clearColour, .ok ()) :: calls.map CanvasCall.succeeded ++
            [(.endFrame, .error error)] }
  | finished (stored : scene.scripts.contains rootId = true) {calls : List (CanvasCall S)}
      (inner : ∀ call ∈ calls, call.isInner = true) {report : ReplayReport}
      (draws : report.draws = calls.countP CanvasCall.isDraw)
      {shaders : ShaderCache S} (frame : shaders.frame = scene.shaders.frame + 1) (drawn : σ) :
      FrameCourse scene
        { answer := .ok report
          after := { scene with shaders }
          drawn
          trace := (.beginFrame scene.clearColour, .ok ()) :: calls.map CanvasCall.succeeded ++
            [(.endFrame, .ok ())] }

theorem FrameCourse.missingRoot_iff {scene : Scene S} {frame : TracedFrame σ S}
    (course : scene.FrameCourse frame) :
    frame.answer = .error .missingRoot ↔ scene.scripts.contains rootId = false := by
  cases course with
  | rootless absent => exact iff_of_true rfl absent
  | unbegun stored => exact iff_of_false (by rintro ⟨⟩) (by simp [stored])
  | unfinished stored => exact iff_of_false (by rintro ⟨⟩) (by simp [stored])
  | finished stored => exact iff_of_false (by rintro ⟨⟩) (by simp [stored])

theorem frameCourse_tracedFrame (canvas : Canvas σ S) {scene : Scene S}
    (rooted : scene.scripts.Rooted) (surface : σ) :
    scene.FrameCourse (scene.tracedFrame canvas surface) := by
  cases stored : scene.scripts.contains rootId with
  | false =>
      have absent : (scene.stage canvas.tracing).scripts.contains rootId = false := stored
      rw [tracedFrame, replayFrame, Stage.replay_of_absent rooted absent]
      exact .rootless stored surface
  | true =>
      obtain ⟨root, script, found⟩ := rooted.of_contains stored
      rcases begun : canvas.beginFrame scene.clearColour surface with ⟨error | ⟨⟨⟩⟩, opened⟩
      · rw [tracedFrame_of_unbegun root found begun]
        exact .unbegun stored error opened
      · rw [tracedFrame_of_begun root found begun]
        obtain ⟨calls, tally⟩ :=
          ((scene.stage canvas).tracing.action_walk (scene.depthLimit - 1) script).tally
            (scene.opening opened)
        have frame : (scene.walked canvas script opened).shaders.frame = scene.shaders.frame :=
          tally.frame
        have draws : (scene.walked canvas script opened).report.draws =
            calls.countP CanvasCall.isDraw := tally.draws.trans (Nat.zero_add _)
        have within : (scene.walked canvas script opened).surface.2 =
            (.beginFrame scene.clearColour, .ok ()) :: calls.map CanvasCall.succeeded := tally.trace
        rw [within]
        rcases canvas.endFrame (scene.walked canvas script opened).surface.1 with
          ⟨error | ⟨⟨⟩⟩, drawn⟩
        · exact .unfinished stored tally.inner error frame drawn
        · exact .finished stored tally.inner draws (congrArg (· + 1) frame) drawn

end Scene

/-- **A frame takes one of four courses.** After any edits, replays and redraws, on
canvases that fail whenever they like, a frame makes no call if the well-known root is not
stored, and only then misses its root; or it fails to begin; or it begins, asks for
shaders and draws, and fails to end; or it ends as well. It leaves everything of the scene
but the shader cache as it was, and that too unless it begins. Only a frame that ends goes
on to the next frame of the cache, and its report counts the draws. -/
theorem frame_takes_one_of_four_courses (decoder : ImageDecoder) (config : SceneConfig)
    (events : List (SceneEvent S)) (canvas : Canvas σ S) (surface : σ) :
    let scene := (Timeline.ofEvents decoder config events).scene
    let frame := scene.tracedFrame canvas surface
    scene.replayFrame canvas surface = (frame.answer, frame.after, frame.drawn) ∧
      scene.FrameCourse frame ∧
      (frame.answer = .error .missingRoot ↔ scene.scripts.contains rootId = false) := by
  intro scene frame
  have rooted : scene.scripts.Rooted := (Timeline.fresh_ofEvents decoder config events).rooted
  have course : scene.FrameCourse frame := Scene.frameCourse_tracedFrame canvas rooted surface
  exact ⟨Scene.replayFrame_eq_traced canvas scene surface, course, course.missingRoot_iff⟩

end ScenePlayer
