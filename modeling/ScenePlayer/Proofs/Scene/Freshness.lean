import ScenePlayer.Canvas.Recording
import ScenePlayer.Proofs.Scene.Redraw

/-!
A clean scene has been drawn. In any course of edits, replays and redraws, with any
decoder of images and on canvases that fail whenever they like, a scene that is not
dirty and has a root is what the last successful redraw has drawn, and no redraw has
failed since (`clean_scene_is_drawn`). The root matters: without one a redraw lowers
the flag and draws nothing.
-/

namespace ScenePlayer

variable {σ S : Type}

/-- What may happen to a scene whose shaders are of type `S`. Every frame may go to
a canvas and a surface of its own. -/
inductive SceneEvent (S : Type) : Type 1 where
  | edit (edit : SceneEdit)
  | replayFrame {σ : Type} (canvas : Canvas σ S) (surface : σ)
  | redrawIfDirty {σ : Type} (canvas : Canvas σ S) (surface : σ)

/-- A scene, and the redraws it was asked for, latest first: the scene as it was
then, and the answer. -/
structure Timeline (S : Type) where
  scene : Scene S
  redraws : List (Scene S × Except CanvasError (Option ReplayReport)) := []

namespace Timeline

def serve (decoder : ImageDecoder) (timeline : Timeline S) : SceneEvent S → Timeline S
  | .edit edit => { timeline with scene := timeline.scene.edit decoder edit }
  | .replayFrame canvas surface =>
      { timeline with scene := (timeline.scene.replayFrame canvas surface).2.1 }
  | .redrawIfDirty canvas surface =>
      let (answer, scene, _) := timeline.scene.redrawIfDirty canvas surface
      { scene, redraws := (timeline.scene, answer) :: timeline.redraws }

/-- The timeline of some events on a new scene. -/
def ofEvents (decoder : ImageDecoder) (config : SceneConfig) (events : List (SceneEvent S)) :
    Timeline S :=
  events.foldl (serve decoder) { scene := .ofConfig config }

/-- The last redraw that drew something has drawn what the scene holds, and those
since had nothing to do; so none of them has failed. -/
def IsDrawn (timeline : Timeline S) : Prop :=
  ∃ since drawn report before,
    timeline.redraws = since ++ (drawn, .ok (some report)) :: before ∧
      (∀ redraw ∈ since, redraw.2 = .ok none) ∧ timeline.scene.Alike drawn

/-- A clean scene with a root is drawn. -/
structure Fresh (timeline : Timeline S) : Prop where
  rooted : timeline.scene.scripts.Rooted
  drawn : timeline.scene.isDirty = false → timeline.scene.scripts.contains rootId = true →
    timeline.IsDrawn

theorem Fresh.edit {timeline : Timeline S} (fresh : timeline.Fresh) (decoder : ImageDecoder)
    (edit : SceneEdit) : (timeline.serve decoder (.edit edit)).Fresh := by
  have edited := timeline.scene.edited_edit decoder edit
  refine ⟨edited.rooted fresh.rooted, fun clean stored => ?_⟩
  obtain ⟨wasClean, alike⟩ := edited.clean fresh.rooted clean
  have wasStored : timeline.scene.scripts.contains rootId = true := by
    rw [← alike.scripts]
    exact stored
  obtain ⟨since, drawn, report, before, redraws, idle, same⟩ := fresh.drawn wasClean wasStored
  exact ⟨since, drawn, report, before, redraws, idle, alike.trans same⟩

theorem Fresh.replayFrame {timeline : Timeline S} (fresh : timeline.Fresh) (canvas : Canvas σ S)
    (surface : σ) : (timeline.serve decoder (.replayFrame canvas surface)).Fresh := by
  refine ⟨fresh.rooted, fun clean stored => ?_⟩
  obtain ⟨since, drawn, report, before, redraws, idle, same⟩ := fresh.drawn clean stored
  exact ⟨since, drawn, report, before, redraws, idle,
    ⟨same.scripts, same.assets, same.clearColour, same.depthLimit⟩⟩

theorem Fresh.redrawIfDirty {timeline : Timeline S} (fresh : timeline.Fresh)
    (canvas : Canvas σ S) (surface : σ) :
    (timeline.serve decoder (.redrawIfDirty canvas surface)).Fresh := by
  have redraw := Scene.redraw_redrawIfDirty canvas fresh.rooted surface
  dsimp only [serve]
  generalize timeline.scene.redrawIfDirty canvas surface = outcome at redraw ⊢
  cases redraw with
  | idle clean =>
      refine ⟨fresh.rooted, fun _ stored => ?_⟩
      obtain ⟨since, drawn, report, before, redraws, idle, same⟩ := fresh.drawn clean stored
      refine ⟨_ :: since, drawn, report, before, congrArg _ redraws, ?_, same⟩
      exact List.forall_mem_cons.2 ⟨rfl, idle⟩
  | rootless dirty absent =>
      refine ⟨fresh.rooted, fun _ stored => ?_⟩
      have present : timeline.scene.scripts.contains rootId = true := stored
      rw [absent] at present
      cases present
  | drawn dirty replayed =>
      refine ⟨fresh.rooted, fun _ _ => ⟨[], timeline.scene, _, _, rfl, ?_, ?_⟩⟩
      · exact List.forall_mem_nil _
      · exact ⟨rfl, rfl, rfl, rfl⟩
  | failed dirty replayed =>
      refine ⟨fresh.rooted, fun clean _ => ?_⟩
      cases clean

theorem Fresh.serve {timeline : Timeline S} (fresh : timeline.Fresh) (event : SceneEvent S) :
    (timeline.serve decoder event).Fresh := by
  cases event with
  | edit edit => exact fresh.edit decoder edit
  | replayFrame canvas surface => exact fresh.replayFrame canvas surface
  | redrawIfDirty canvas surface => exact fresh.redrawIfDirty canvas surface

theorem fresh_ofEvents (decoder : ImageDecoder) (config : SceneConfig)
    (events : List (SceneEvent S)) :
    (ofEvents decoder config events).Fresh := by
  suffices ∀ timeline : Timeline S, timeline.Fresh →
      (events.foldl (Timeline.serve decoder) timeline).Fresh by
    refine this _ ⟨ScriptStore.rooted_empty, ?_⟩
    rintro - ⟨⟩
  induction events with
  | nil => exact fun timeline fresh => fresh
  | cons first rest ih => exact fun timeline fresh => ih _ (fresh.serve first)

end Timeline

/-- **A clean scene is drawn.** After any events, and however image files are decoded,
a scene that is not dirty and has the well-known root holds the scripts, the assets and
the clear colour with which the last successful redraw was called, and no redraw has
failed since. -/
theorem clean_scene_is_drawn (decoder : ImageDecoder) (config : SceneConfig)
    (events : List (SceneEvent S))
    (clean : (Timeline.ofEvents decoder config events).scene.isDirty = false)
    (stored : (Timeline.ofEvents decoder config events).scene.scripts.contains rootId = true) :
    ∃ since drawn report before,
      (Timeline.ofEvents decoder config events).redraws =
          since ++ (drawn, .ok (some report)) :: before ∧
        (∀ redraw ∈ since, redraw.2 = .ok none) ∧
        (Timeline.ofEvents decoder config events).scene.scripts = drawn.scripts ∧
        (Timeline.ofEvents decoder config events).scene.assets = drawn.assets ∧
        (Timeline.ofEvents decoder config events).scene.clearColour = drawn.clearColour := by
  obtain ⟨since, drawn, report, before, redraws, idle, same⟩ :=
    (Timeline.fresh_ofEvents decoder config events).drawn clean stored
  exact ⟨since, drawn, report, before, redraws, idle, same.scripts, same.assets, same.clearColour⟩

/-- Both ends of a frame fail before one is drawn, with an image put in between; after
that nothing changes. -/
theorem clean_scene_is_drawn_on_third_try :
    let events : List (SceneEvent Nat) :=
      [.edit (.submitRoot []),
        .redrawIfDirty Recording.canvas { failBegin := some (.lost "begin") },
        .edit (.putImage "tile" [0]),
        .redrawIfDirty Recording.canvas { failEnd := some (.present "end") },
        .redrawIfDirty Recording.canvas {},
        .edit (.delete "missing"), .edit (.setClearColour Colour.black),
        .redrawIfDirty Recording.canvas {}]
    let timeline := Timeline.ofEvents (fun _ => .ok ⟨1, 1, #[Colour.black], rfl⟩) {} events
    timeline.scene.isDirty = false ∧ timeline.scene.scripts.contains rootId = true ∧
      ∃ since drawn report before,
        timeline.redraws = since ++ (drawn, .ok (some report)) :: before ∧
          (∀ redraw ∈ since, redraw.2 = .ok none) ∧
          timeline.scene.scripts = drawn.scripts ∧ timeline.scene.assets = drawn.assets ∧
          timeline.scene.clearColour = drawn.clearColour := by
  intro events timeline
  have clean : timeline.scene.isDirty = false := by decide +kernel
  have stored : timeline.scene.scripts.contains rootId = true := by decide +kernel
  exact ⟨clean, stored, clean_scene_is_drawn _ {} events clean stored⟩

end ScenePlayer
