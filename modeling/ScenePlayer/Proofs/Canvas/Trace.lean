import ScenePlayer.Canvas.Recording
import ScenePlayer.Proofs.Canvas.View

/-!
Traces of canvases. Whatever is asked of a canvas can be written down in order, each
call with its answer (`Canvas.tracing`), without any change to what the canvas does
(`Canvas.shows_tracing`). Calls within a frame are draws and requests for shaders;
they never fail.
-/

namespace ScenePlayer

variable {σ S : Type}

/-- The calls of a canvas in order, each with the answer that says whether it failed. -/
abbrev Trace (S : Type) : Type := List (CanvasCall S × Except CanvasError Unit)

namespace CanvasCall

/-- Whether a call draws something. -/
def isDraw : CanvasCall S → Bool
  | .fill .. => true
  | .stroke .. => true
  | .text .. => true
  | .sprite .. => true
  | _ => false

/-- Whether a call is one of those between the start and the end of a frame: a draw, or a
request for a shader. -/
def isInner : CanvasCall S → Bool
  | .beginFrame _ => false
  | .endFrame => false
  | _ => true

/-- Whether a call has built a shader. -/
def isBuild : CanvasCall S → Bool
  | .buildShader _ shader => shader.isSome
  | _ => false

/-- A call that succeeded, as it stands in a trace. -/
def succeeded (call : CanvasCall S) : CanvasCall S × Except CanvasError Unit := (call, .ok ())

theorem isInner_of_isDraw {call : CanvasCall S} (drawn : call.isDraw = true) :
    call.isInner = true := by
  cases call <;> first | rfl | cases drawn

theorem isBuild_of_isDraw {call : CanvasCall S} (drawn : call.isDraw = true) :
    call.isBuild = false := by
  cases call <;> first | rfl | cases drawn

end CanvasCall

namespace Canvas

/-- Carry out a draw; other calls do nothing here. -/
def draw (canvas : Canvas σ S) : CanvasCall S → σ → σ
  | .fill outline ink place => canvas.fill outline ink place
  | .stroke outline ink style place => canvas.stroke outline ink style place
  | .text run ink place => canvas.text run ink place
  | .sprite picture sprite place => canvas.sprite picture sprite place
  | _ => id

/-- Carry out draws in order. -/
def draws (canvas : Canvas σ S) (calls : List (CanvasCall S)) (surface : σ) : σ :=
  calls.foldl (fun surface call => canvas.draw call surface) surface

theorem draws_sprites (canvas : Canvas σ S) (picture : Picture) (sprites : List Sprite)
    (place : Placement) :
    canvas.draws (sprites.map fun sprite => .sprite picture sprite place) = fun surface =>
      sprites.foldl (fun surface sprite => canvas.sprite picture sprite place surface) surface :=
  funext fun _ => List.foldl_map

/-- A canvas that writes down in order what it is asked to do, and how it answers. -/
def tracing (canvas : Canvas σ S) : Canvas (σ × Trace S) S where
  buildShader source state :=
    let (shader, surface) := canvas.buildShader source state.1
    (shader, surface, state.2 ++ [(.buildShader source shader, .ok ())])
  beginFrame clear state :=
    let (answer, surface) := canvas.beginFrame clear state.1
    (answer, surface, state.2 ++ [(.beginFrame clear, answer)])
  fill outline ink place state :=
    (canvas.fill outline ink place state.1, state.2 ++ [(.fill outline ink place, .ok ())])
  stroke outline ink style place state :=
    (canvas.stroke outline ink style place state.1,
      state.2 ++ [(.stroke outline ink style place, .ok ())])
  text run ink place state :=
    (canvas.text run ink place state.1, state.2 ++ [(.text run ink place, .ok ())])
  sprite picture sprite place state :=
    (canvas.sprite picture sprite place state.1,
      state.2 ++ [(.sprite picture sprite place, .ok ())])
  endFrame state :=
    let (answer, surface) := canvas.endFrame state.1
    (answer, surface, state.2 ++ [(.endFrame, answer)])

theorem beginFrame_tracing (canvas : Canvas σ S) (clear : Colour) (state : σ × Trace S) :
    canvas.tracing.beginFrame clear state =
      ((canvas.beginFrame clear state.1).1, (canvas.beginFrame clear state.1).2,
        state.2 ++ [(.beginFrame clear, (canvas.beginFrame clear state.1).1)]) := rfl

theorem endFrame_tracing (canvas : Canvas σ S) (state : σ × Trace S) :
    canvas.tracing.endFrame state =
      ((canvas.endFrame state.1).1, (canvas.endFrame state.1).2,
        state.2 ++ [(.endFrame, (canvas.endFrame state.1).1)]) := rfl

theorem shows_tracing (canvas : Canvas σ S) : canvas.tracing.Shows Prod.fst canvas where
  buildShader _ _ := rfl
  beginFrame _ _ := rfl
  fill _ _ _ _ := rfl
  stroke _ _ _ _ _ := rfl
  text _ _ _ _ := rfl
  sprite _ _ _ _ := rfl
  endFrame _ := rfl

theorem draw_tracing (canvas : Canvas σ S) {call : CanvasCall S} (drawn : call.isDraw = true)
    (state : σ × Trace S) :
    canvas.tracing.draw call state = (canvas.draw call state.1, state.2 ++ [call.succeeded]) := by
  cases call <;> first | rfl | cases drawn

/-- Draws are written down in their order. -/
theorem draws_tracing (canvas : Canvas σ S) {calls : List (CanvasCall S)}
    (drawn : ∀ call ∈ calls, call.isDraw = true) (state : σ × Trace S) :
    canvas.tracing.draws calls state =
      (canvas.draws calls state.1, state.2 ++ calls.map CanvasCall.succeeded) := by
  induction calls generalizing state with
  | nil => exact Prod.ext rfl (List.append_nil _).symm
  | cons first rest ih =>
      obtain ⟨here, later⟩ := List.forall_mem_cons.1 drawn
      rw [draws, List.foldl_cons, canvas.draw_tracing here]
      exact (ih later _).trans (Prod.ext rfl (List.append_cons _ _ _).symm)

end Canvas

/-- The same stage, with all calls of its canvas written down. -/
def Stage.tracing (stage : Stage σ S) : Stage (σ × Trace S) S :=
  stage.withCanvas stage.canvas.tracing

end ScenePlayer
