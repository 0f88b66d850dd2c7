import ScenePlayer.Proofs.Replay.Enumeration
import ScenePlayer.Proofs.Scene.FrameCourse

/-!
Frames that are repeated. While nothing happens to a scene, a second frame is an echo of
the first one: it draws the same with the same shaders, reports the same, and asks again
only for what has been declined (`replay_repeats`). The second frame starts on the cache
that the first one leaves, with or without the eviction at the end. What carries the
induction is that each paint that the first frame has met is settled in that cache, so
that both frames get the same ink for it (`Pass.Echoes.resolved`).
-/

namespace ScenePlayer

variable {σ S : Type}

/-- On surfaces that fit, a canvas accepts or declines a source of shaders by the source
alone, and it leaves surfaces that fit. -/
structure Canvas.Steady (canvas : Canvas σ S) (accepts : ShaderSource → Bool)
    (Fits : σ → Prop) : Prop where
  answers : ∀ source surface, Fits surface →
    (canvas.buildShader source surface).1.isSome = accepts source
  buildShader : ∀ source surface, Fits surface → Fits (canvas.buildShader source surface).2
  beginFrame : ∀ clear surface, Fits surface → Fits (canvas.beginFrame clear surface).2
  draw : ∀ call surface, Fits surface → Fits (canvas.draw call surface)

/-- The canvas that records declines some kinds of shaders throughout. -/
theorem Recording.steady_canvas (declined : List ShaderKind) :
    canvas.Steady (fun source => decide (source.kind ∉ declined))
      (fun surface => surface.declined = declined) where
  answers source surface fits := by
    simp only [canvas, buildShader, fits]
    split <;> simp_all
  buildShader source surface fits := by
    simp only [canvas, buildShader]
    split <;> exact fits
  beginFrame clear surface fits := by
    simp only [canvas, beginFrame]
    split <;> exact fits
  draw call surface fits := by cases call <;> exact fits

/-- The draws of a trace, in order. -/
def Trace.draws (trace : Trace S) : Trace S := trace.filter fun call => call.1.isDraw

/-- A trace without the requests that were answered by a shader. -/
def Trace.unbuilt (trace : Trace S) : Trace S := trace.filter fun call => !call.1.isBuild

namespace ShaderCache

/-- The request made for a paint, if it has a source, with this answer. -/
def asked (assets : AssetStore) (paint : Paint) (shader? : Option S) : Trace S :=
  (assets.source? paint).toList.map fun source =>
    CanvasCall.succeeded (.buildShader source shader?)

/-- The request made in vain for a paint for which this shader, or none, is supplied. -/
def askedInVain (assets : AssetStore) (paint : Paint) (shader? : Option S) : Trace S :=
  if shader?.isSome then [] else asked assets paint none

theorem unbuilt_asked (assets : AssetStore) (paint : Paint) (shader? : Option S) :
    (asked assets paint shader?).unbuilt = askedInVain assets paint shader? := by
  unfold askedInVain asked
  cases assets.source? paint <;> cases shader? <;> rfl

theorem trace_request (canvas : Canvas σ S) (assets : AssetStore) (paint : Paint)
    (state : σ × Trace S) :
    (request canvas.tracing.buildShader assets paint state).2.2 =
      state.2 ++ asked assets paint
        (request canvas.tracing.buildShader assets paint state).1 := by
  unfold request asked
  cases assets.source? paint with
  | none => exact (List.append_nil _).symm
  | some source => rfl

/-- Apart from what is built, a resolution adds to a trace what it asks for in vain. -/
theorem unbuilt_supply (canvas : Canvas σ S) (assets : AssetStore) (paint : Paint)
    (cache : ShaderCache S) (state : σ × Trace S) :
    (cache.supply canvas.tracing.buildShader assets paint state).2.2.unbuilt =
      state.2.unbuilt ++ askedInVain assets paint
        (cache.supply canvas.tracing.buildShader assets paint state).1 := by
  unfold supply
  split
  · exact (List.append_nil _).symm
  · rw [trace_request, Trace.unbuilt, List.filter_append]
    exact congrArg _ (unbuilt_asked assets paint _)

/-- Where no shader is supplied, it has been asked for in vain. -/
theorem trace_supply_of_none {canvas : Canvas σ S} {assets : AssetStore} {paint : Paint}
    {cache : ShaderCache S} {state : σ × Trace S}
    (vacant : (cache.supply canvas.tracing.buildShader assets paint state).1 = none) :
    (cache.supply canvas.tracing.buildShader assets paint state).2.2 =
      state.2 ++ asked assets paint none := by
  unfold supply at vacant ⊢
  split at vacant
  · cases vacant
  · rw [trace_request, vacant]

/-- A paint that is settled in the end is supplied again with the same calls, apart from
one that built its shader. -/
theorem Covers.trace_supply {accepts : ShaderSource → Bool} {canvas : Canvas σ S}
    {assets : AssetStore} {paint : Paint} {cache other kept : ShaderCache S}
    {state again : σ × Trace S} (covers : kept.Covers accepts assets other)
    (answers : ∀ source, (canvas.tracing.buildShader source again).1.isSome = accepts source)
    (settled : kept.Settled accepts assets paint
      (cache.supply canvas.tracing.buildShader assets paint state).1)
    (trace : again.2 = state.2.unbuilt) :
    (other.supply canvas.tracing.buildShader assets paint again).2.2 =
      (cache.supply canvas.tracing.buildShader assets paint state).2.2.unbuilt := by
  obtain ⟨same, unasked⟩ := covers.supply answers settled
  rw [unbuilt_supply, ← trace]
  cases provided : (cache.supply canvas.tracing.buildShader assets paint state).1 with
  | some shader =>
      rw [provided] at unasked
      rw [unasked rfl]
      exact (List.append_nil _).symm
  | none =>
      rw [provided] at same
      exact trace_supply_of_none same

end ShaderCache

namespace Canvas.Steady

variable {canvas : Canvas σ S} {accepts : ShaderSource → Bool} {Fits : σ → Prop}
  (steady : canvas.Steady accepts Fits)

include steady

theorem draws {calls : List (CanvasCall S)} {surface : σ} (fits : Fits surface) :
    Fits (canvas.draws calls surface) := by
  induction calls generalizing surface with
  | nil => exact fits
  | cons first rest ih => exact ih (steady.draw first surface fits)

theorem answers_tracing {state : σ × Trace S} (fits : Fits state.1) (source : ShaderSource) :
    (canvas.tracing.buildShader source state).1.isSome = accepts source :=
  steady.answers source state.1 fits

theorem fits_resolve (assets : AssetStore) (paint : Paint) (cache : ShaderCache S)
    {state : σ × Trace S} (fits : Fits state.1) :
    Fits (cache.resolve canvas.tracing.buildShader assets paint state).2.2.1 := by
  rcases ShaderCache.resolve_surface canvas.tracing.buildShader assets paint cache state with
    same | ⟨source, -, same⟩
  · rwa [same]
  · rw [same]
    exact steady.buildShader source state.1 fits

end Canvas.Steady

section Passes

variable {accepts : ShaderSource → Bool} {Fits : σ → Prop} {stage : Stage σ S}
  (steady : stage.canvas.Steady accepts Fits)

include steady

theorem Stage.fits_resolved (slot : PaintSlot) {pass : Pass (σ × Trace S) S}
    (fits : Fits pass.surface.1) : Fits (stage.tracing.resolved slot pass).surface.1 :=
  steady.fits_resolve stage.assets (pass.stack.top.paint slot) pass.shaders fits

theorem Stage.keeps_resolved (slot : PaintSlot) {pass : Pass (σ × Trace S) S}
    (fits : Fits pass.surface.1) :
    pass.shaders.Keeps accepts stage.assets (stage.tracing.resolved slot pass).shaders :=
  ShaderCache.keeps_resolve (steady.answers_tracing fits) pass.shaders (pass.stack.top.paint slot)

/-- What is settled about paints stays settled to the end of an action. -/
theorem Stage.Action.keeps {change : Pass (σ × Trace S) S → Pass (σ × Trace S) S}
    (action : stage.tracing.Action change) {pass : Pass (σ × Trace S) S}
    (fits : Fits pass.surface.1) :
    Fits (change pass).surface.1 ∧
      pass.shaders.Keeps accepts stage.assets (change pass).shaders := by
  induction action generalizing pass with
  | quiet quiet uncounted =>
      rw [quiet.surface, quiet.shaders]
      exact ⟨fits, .refl _⟩
  | draws drawn =>
      refine ⟨?_, .refl _⟩
      exact (congrArg Prod.fst (stage.canvas.draws_tracing drawn pass.surface)).symm ▸
        steady.draws fits
  | withInk slot _ ih =>
      have resolved := Stage.keeps_resolved steady slot fits
      have fits := Stage.fits_resolved steady slot fits
      rw [Stage.withInk_eq]
      split
      · rename_i ink _
        obtain ⟨fits, drawn⟩ := ih ink fits
        exact ⟨fits, resolved.trans drawn⟩
      · exact ⟨fits, resolved⟩
  | andThen _ _ first second =>
      obtain ⟨between, left⟩ := first fits
      obtain ⟨fits, right⟩ := second between
      exact ⟨fits, left.trans right⟩
  | choose choice _ same ih =>
      have same := same pass pass.surface pass.shaders
      exact same ▸ ih pass fits

end Passes

/-- The second of two passes echoes the first one: it differs in surface and cache only.
`kept` is the cache that the first walk leaves in the end; the second pass finds in its own
cache what is settled there, and has made the same calls apart from those that built
shaders. -/
inductive Pass.Echoes (accepts : ShaderSource → Bool) (assets : AssetStore) (Fits : σ → Prop)
    (kept : ShaderCache S) : Pass (σ × Trace S) S → Pass (σ × Trace S) S → Prop where
  | intro {pass : Pass (σ × Trace S) S} {surface : σ × Trace S} {shaders : ShaderCache S}
      (covers : kept.Covers accepts assets shaders)
      (trace : surface.2 = pass.surface.2.unbuilt)
      (first : Fits pass.surface.1) (second : Fits surface.1) :
      Echoes accepts assets Fits kept pass (pass.onto surface shaders)

namespace Pass.Echoes

variable {accepts : ShaderSource → Bool} {Fits : σ → Prop} {kept : ShaderCache S}
  {pass again : Pass (σ × Trace S) S}

theorem of_quiet {assets : AssetStore}
    {change : Pass (σ × Trace S) S → Pass (σ × Trace S) S} (quiet : Quiet change)
    (echoes : Echoes accepts assets Fits kept pass again) :
    Echoes accepts assets Fits kept (change pass) (change again) := by
  cases echoes with
  | intro covers trace first second =>
      rw [quiet]
      refine .intro covers ?_ ?_ second
      · rwa [quiet.surface]
      · rwa [quiet.surface]

theorem fits {assets : AssetStore} (echoes : Echoes accepts assets Fits kept pass again) :
    Fits pass.surface.1 := by
  cases echoes with
  | intro _ _ first _ => exact first

theorem trace {assets : AssetStore} (echoes : Echoes accepts assets Fits kept pass again) :
    again.surface.2 = pass.surface.2.unbuilt := by
  cases echoes with
  | intro _ trace _ _ => exact trace

theorem state {assets : AssetStore} (echoes : Echoes accepts assets Fits kept pass again) :
    again = pass.onto again.surface again.shaders := by
  cases echoes
  rfl

variable {stage : Stage σ S} (steady : stage.canvas.Steady accepts Fits)

include steady

theorem drawing (echoes : Echoes accepts stage.assets Fits kept pass again)
    {calls : List (CanvasCall S)} (drawn : ∀ call ∈ calls, call.isDraw = true) :
    Echoes accepts stage.assets Fits kept
      (pass.drawing calls.length (stage.tracing.canvas.draws calls))
      (again.drawing calls.length (stage.tracing.canvas.draws calls)) := by
  have unbuilt : Trace.unbuilt (calls.map CanvasCall.succeeded) =
      calls.map CanvasCall.succeeded := by
    refine List.filter_eq_self.2 fun entry member => ?_
    obtain ⟨call, listed, rfl⟩ := List.mem_map.1 member
    exact congrArg (!·) (CanvasCall.isBuild_of_isDraw (drawn call listed))
  have traced := stage.canvas.draws_tracing drawn
  cases echoes with
  | @intro surface shaders covers trace first second =>
      refine .intro covers ?_ ?_ ?_
      · have here := congrArg Prod.snd (traced pass.surface)
        have there := congrArg Prod.snd (traced surface)
        refine there.trans ?_
        rw [trace]
        refine Eq.trans ?_ (congrArg Trace.unbuilt here).symm
        rw [Trace.unbuilt, Trace.unbuilt, List.filter_append]
        exact congrArg _ unbuilt.symm
      · exact (congrArg Prod.fst (traced pass.surface)).symm ▸ steady.draws first
      · exact (congrArg Prod.fst (traced surface)).symm ▸ steady.draws second

/-- A paint that is settled in the end is resolved alike by both passes. -/
theorem resolved (echoes : Echoes accepts stage.assets Fits kept pass again) (slot : PaintSlot)
    (keeps : (stage.tracing.resolved slot pass).shaders.Keeps accepts stage.assets kept) :
    (stage.tracing.resolution slot again).1 = (stage.tracing.resolution slot pass).1 ∧
      Echoes accepts stage.assets Fits kept (stage.tracing.resolved slot pass)
        (stage.tracing.resolved slot again) := by
  cases echoes with
  | @intro surface shaders covers trace first second =>
      have supplied := ShaderCache.supplied_resolve stage.canvas.tracing.buildShader
        stage.assets (pass.stack.top.paint slot) pass.shaders pass.surface
      have resupplied := ShaderCache.supplied_resolve stage.canvas.tracing.buildShader
        stage.assets (pass.stack.top.paint slot) shaders surface
      have settled := keeps.settled _ _
        (ShaderCache.settled_resolve (steady.answers_tracing first) pass.shaders
          (pass.stack.top.paint slot))
      have answers := steady.answers_tracing second
      have calls := covers.trace_supply answers settled trace
      rw [← supplied.surface, ← resupplied.surface] at calls
      refine ⟨?_, .intro (covers.resolve answers _) calls (Stage.fits_resolved steady slot first)
        (steady.fits_resolve stage.assets _ _ second)⟩
      refine resupplied.answer.trans (Eq.trans ?_ supplied.answer.symm)
      exact congrArg (stage.assets.ink _) (covers.supply answers settled).1

end Pass.Echoes

/-- What the second pass does echoes what the first one does, as long as the cache in the
end keeps what the first one settles. -/
theorem Stage.Action.echoes {stage : Stage σ S} {accepts : ShaderSource → Bool} {Fits : σ → Prop}
    (steady : stage.canvas.Steady accepts Fits)
    {change : Pass (σ × Trace S) S → Pass (σ × Trace S) S}
    (action : stage.tracing.Action change) {kept : ShaderCache S}
    {pass again : Pass (σ × Trace S) S}
    (echoes : pass.Echoes accepts stage.assets Fits kept again)
    (keeps : (change pass).shaders.Keeps accepts stage.assets kept) :
    (change pass).Echoes accepts stage.assets Fits kept (change again) := by
  induction action generalizing pass again with
  | quiet quiet uncounted => exact echoes.of_quiet quiet
  | draws drawn => exact echoes.drawing steady drawn
  | @withInk slot draw drawn ih =>
      -- What is drawn with the ink keeps the shader too, so the cache has it in the end.
      rw [withInk_eq] at keeps ⊢
      rw [withInk_eq]
      have fits := fits_resolved steady slot echoes.fits
      cases answer : (stage.tracing.resolution slot pass).1 with
      | ok ink =>
          rw [answer] at keeps
          have settled := ((drawn ink).keeps steady fits).2.trans keeps
          obtain ⟨same, resolved⟩ := echoes.resolved steady slot settled
          rw [same, answer]
          exact ih ink resolved keeps
      | error error =>
          rw [answer] at keeps
          obtain ⟨same, resolved⟩ := echoes.resolved steady slot keeps
          rw [same, answer]
          exact resolved.of_quiet (Pass.quiet_warn _)
  | andThen before after first second =>
      have fits := (before.keeps steady echoes.fits).1
      have between := (after.keeps steady fits).2.trans keeps
      exact second (first echoes between) keeps
  | choose choice chosen same ih =>
      have here := same pass pass.surface pass.shaders
      have there := same pass again.surface again.shaders
      rw [← echoes.state] at there
      have keeps : (choice pass pass).shaders.Keeps accepts stage.assets kept := here ▸ keeps
      exact here ▸ there ▸ ih pass echoes keeps

namespace Trace

variable {trace again : Trace S} {ended endedAgain : Except CanvasError Unit}
  (echoes : again = trace.unbuilt)

include echoes

/-- Draws are none of the calls that are left out. -/
theorem draws_of_unbuilt :
    draws (again ++ [(.endFrame, endedAgain)]) = draws (trace ++ [(.endFrame, ended)]) := by
  rw [draws, draws, List.filter_append, List.filter_append, echoes, unbuilt, List.filter_filter]
  refine congrArg₂ _ (List.filter_congr fun call _ => ?_) rfl
  cases drawn : call.1.isDraw with
  | false => rfl
  | true => rw [CanvasCall.isBuild_of_isDraw drawn]; rfl

/-- The requests that are left are those that were declined. -/
theorem declined_of_unbuilt {source : ShaderSource} {shader : Option S}
    {result : Except CanvasError Unit}
    (asked : (.buildShader source shader, result) ∈ again ++ [(.endFrame, endedAgain)]) :
    shader = none ∧ (.buildShader source none, result) ∈ trace ++ [(.endFrame, ended)] := by
  rcases List.mem_append.1 asked with within | ends
  · rw [echoes, unbuilt, List.mem_filter] at within
    obtain ⟨listed, declined⟩ := within
    cases shader with
    | none => exact ⟨rfl, List.mem_append_left _ listed⟩
    | some shader => cases declined
  · cases List.mem_singleton.1 ends

end Trace

namespace Scene

variable {canvas : Canvas σ S} {scene : Scene S}

/-- When all scripts of a frame are left, the walk of its root is over. -/
theorem leads_walked {script : Script} (found : scene.scripts.find? rootId = some script)
    {surface opened : σ}
    (begun : canvas.beginFrame scene.clearColour surface = (.ok (), opened)) :
    (scene.stage canvas).Leads rootId scene.clearColour (.start scene.shaders surface)
      (.walking [] ((scene.walked canvas script opened).view Prod.fst)) := by
  have shows : canvas.tracing.Shows Prod.fst (scene.stage canvas).canvas := canvas.shows_tracing
  have seen : (scene.walked canvas script opened).view Prod.fst = _ :=
    Stage.view_walk shows (scene.depthLimit - 1) script (scene.opening opened)
  rw [seen]
  exact Stage.leads_done found begun

section Begun

variable {script : Script} (root : scene.scripts.root = some rootId)
  (found : scene.scripts.find? rootId = some script) {surface opened : σ}
  (begun : canvas.beginFrame scene.clearColour surface = (.ok (), opened))

include root found begun

theorem after_of_begun :
    let after := (scene.tracedFrame canvas surface).after
    after = { scene with shaders := after.shaders } := by
  rw [tracedFrame_of_begun root found begun]

/-- The next frame finds all that was settled when the walk was over, evicted or not. -/
theorem covers_after (accepts : ShaderSource → Bool) :
    (scene.walked canvas script opened).shaders.Covers accepts scene.assets
      (scene.tracedFrame canvas surface).after.shaders := by
  rw [tracedFrame_of_begun root found begun]
  dsimp only
  split
  · exact ShaderCache.covers_endFrame _
  · exact ShaderCache.covers_self _

end Begun

/-- The walk of a frame echoes that of the frame before. -/
theorem echoes_walked {accepts : ShaderSource → Bool} {Fits : σ → Prop}
    (steady : canvas.Steady accepts Fits) (script : Script) {opened reopened : σ}
    (fits : Fits opened) (refits : Fits reopened) {after : Scene S} {shaders : ShaderCache S}
    (left : after = { scene with shaders })
    (covers : (scene.walked canvas script opened).shaders.Covers accepts scene.assets shaders) :
    (scene.walked canvas script opened).Echoes accepts scene.assets Fits
      (scene.walked canvas script opened).shaders (after.walked canvas script reopened) := by
  subst left
  have action : (scene.stage canvas).tracing.Action _ :=
    (scene.stage canvas).tracing.action_walk (scene.depthLimit - 1) script
  have opens : (scene.opening opened).Echoes accepts scene.assets Fits
      (scene.walked canvas script opened).shaders
      ({ scene with shaders }.opening reopened) := .intro covers rfl fits refits
  exact action.echoes steady opens (.refl _)

end Scene

/-- **An unchanged scene is drawn again alike.** After any edits, replays and redraws, on a
canvas that accepts and declines shaders by their sources alone, let a frame begin and
another one after it, without an edit between them. Whether the first one ends or fails to,
and however soon idle shaders are evicted, the second one makes the same draws in the same
order, with the same shaders; it asks for no shader but such as the first one was declined;
and when all scripts are left, the two reports are the same. -/
theorem replay_repeats (decoder : ImageDecoder) (config : SceneConfig)
    (events : List (SceneEvent S)) {canvas : Canvas σ S} {accepts : ShaderSource → Bool}
    {Fits : σ → Prop} (steady : canvas.Steady accepts Fits) (surface later : σ)
    (fits : Fits surface) (fitsLater : Fits later)
    (stored : (Timeline.ofEvents decoder config events).scene.scripts.contains rootId = true)
    (begun : (canvas.beginFrame (Timeline.ofEvents decoder config events).scene.clearColour
      surface).1 = .ok ())
    (begunAgain : (canvas.beginFrame (Timeline.ofEvents decoder config events).scene.clearColour
      later).1 = .ok ()) :
    let scene := (Timeline.ofEvents decoder config events).scene
    let frame := scene.tracedFrame canvas surface
    let again := frame.after.tracedFrame canvas later
    scene.replayFrame canvas surface = (frame.answer, frame.after, frame.drawn) ∧
      frame.after.replayFrame canvas later = (again.answer, again.after, again.drawn) ∧
      again.trace.draws = frame.trace.draws ∧
      (∀ source shader result, (.buildShader source shader, result) ∈ again.trace →
        shader = none ∧ (.buildShader source none, result) ∈ frame.trace) ∧
      ∃ done redone,
        (scene.stage canvas).Leads rootId scene.clearColour (.start scene.shaders surface)
            (.walking [] done) ∧
          (frame.after.stage canvas).Leads rootId frame.after.clearColour
            (.start frame.after.shaders later) (.walking [] redone) ∧
          redone.report = done.report ∧
          frame.answer = ((canvas.endFrame done.surface).1.mapError .canvas).map
            (fun _ => done.report) ∧
          again.answer = ((canvas.endFrame redone.surface).1.mapError .canvas).map
            (fun _ => redone.report) := by
  intro scene frame again
  have rooted : scene.scripts.Rooted := (Timeline.fresh_ofEvents decoder config events).rooted
  obtain ⟨root, script, found⟩ := rooted.of_contains stored
  obtain ⟨opened, opens⟩ :
      ∃ opened, canvas.beginFrame scene.clearColour surface = (.ok (), opened) :=
    ⟨_, Prod.ext begun rfl⟩
  have framed : frame = _ := Scene.tracedFrame_of_begun root found opens
  -- The second frame finds the scripts, the assets and the colour of the first one.
  have unchanged : frame.after = { scene with shaders := frame.after.shaders } :=
    Scene.after_of_begun root found opens
  have covers := Scene.covers_after root found opens accepts
  have rootAgain : frame.after.scripts.root = some rootId := unchanged ▸ root
  have foundAgain : frame.after.scripts.find? rootId = some script := unchanged ▸ found
  obtain ⟨reopened, reopens⟩ :
      ∃ reopened, canvas.beginFrame frame.after.clearColour later = (.ok (), reopened) :=
    ⟨_, Prod.ext (unchanged ▸ begunAgain) rfl⟩
  have reframed : again = _ := Scene.tracedFrame_of_begun rootAgain foundAgain reopens
  have fitsOpened := steady.beginFrame scene.clearColour surface fits
  have fitsReopened := steady.beginFrame frame.after.clearColour later fitsLater
  rw [opens] at fitsOpened
  rw [reopens] at fitsReopened
  have echoes := Scene.echoes_walked steady script fitsOpened fitsReopened unchanged covers
  have report := congrArg Pass.report echoes.state
  refine ⟨Scene.replayFrame_eq_traced canvas scene surface,
    Scene.replayFrame_eq_traced canvas frame.after later, ?_, ?_, _, _,
    Scene.leads_walked found opens, Scene.leads_walked foundAgain reopens, report,
    congrArg TracedFrame.answer framed, congrArg TracedFrame.answer reframed⟩
  · rw [framed, reframed]
    exact Trace.draws_of_unbuilt echoes.trace
  · intro source shader result asked
    rw [reframed] at asked
    rw [framed]
    exact Trace.declined_of_unbuilt echoes.trace asked

/-- The first frame fails to end, and the cache keeps nothing that is idle. The linear
gradient is built once, and the radial one is declined at each draw of both frames. -/
theorem replay_repeats_after_failed_end :
    let linear : Gradient := .linear ⟨0, 0⟩ ⟨8, 8⟩ ⟨0, 0, 0, 255⟩ ⟨255, 0, 0, 255⟩
    let radial : Gradient := .radial ⟨4, 4⟩ 1 2 ⟨0, 0, 0, 255⟩ ⟨0, 255, 0, 255⟩
    let events : List (SceneEvent Nat) :=
      [.edit (.submitDecoded "leaf" [.draw (.rect 2 2) ⟨3⟩]),
        .edit (.submitDecoded rootId [.paint .fill (.gradient linear),
          .paint .stroke (.gradient radial), .draw (.rect 8 8) ⟨3⟩, .drawScript "leaf"])]
    let scene := (Timeline.ofEvents (fun _ => .error []) { idleFrames := 0 } events).scene
    let surface : Recording := { declined := [.radial], failEnd := some (.present "end") }
    let later : Recording := { declined := [.radial] }
    let frame := scene.tracedFrame Recording.canvas surface
    let again := frame.after.tracedFrame Recording.canvas later
    Recording.canvas.Steady (fun source => decide (source.kind ∉ [.radial]))
        (fun surface => surface.declined = [.radial]) ∧
      surface.declined = [.radial] ∧ later.declined = [.radial] ∧
      scene.scripts.contains rootId = true ∧
      (Recording.canvas.beginFrame scene.clearColour surface).1 = .ok () ∧
      (Recording.canvas.beginFrame scene.clearColour later).1 = .ok () ∧
      again.trace.draws = frame.trace.draws ∧
      ∀ source shader result, (.buildShader source shader, result) ∈ again.trace →
        shader = none ∧ (.buildShader source none, result) ∈ frame.trace := by
  intro linear radial events scene surface later frame again
  have stored : scene.scripts.contains rootId = true := by decide +kernel
  have steady := Recording.steady_canvas [.radial]
  obtain ⟨-, -, draws, requests, -⟩ :=
    replay_repeats _ { idleFrames := 0 } events steady surface later rfl rfl stored rfl rfl
  exact ⟨steady, rfl, rfl, stored, rfl, rfl, draws, requests⟩

end ScenePlayer
