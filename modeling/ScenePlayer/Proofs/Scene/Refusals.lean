import ScenePlayer.Proofs.Scene.Freshness

/-!
Operations that a scene refuses. A script or an asset that cannot be decoded is refused,
and so is the deletion of what is not stored. A refused operation leaves every part of
the scene as it was, down to the numbers that only later operations show
(`refused_operation_leaves_no_trace`). For the deletion of a script this takes that the
root is designated only while it is stored: otherwise the designation would go.
-/

namespace ScenePlayer

variable {S : Type}

namespace Scene

/-- Whether an operation answers that it has been carried out. -/
def accepts (decoder : ImageDecoder) (scene : Scene S) : SceneEdit → Bool
  | .submit id bytes => (scene.submit id bytes).1.isOk
  | .submitRoot bytes => (scene.submitRoot bytes).1.isOk
  | .submitBatch entries => (scene.submitBatch entries).1.isOk
  | .delete id => (scene.delete id).1
  | .putImage id bytes => (scene.putImage decoder id bytes).1.isOk
  | .putStream id format width height bytes =>
      (scene.putStream decoder id format width height bytes).1.isOk
  | .putFont id bytes => (scene.putFont id bytes).1.isOk
  | .deleteAsset kind id => (scene.deleteAsset kind id).1
  | _ => true

theorem submit_of_refused {scene : Scene S} {id : String} {bytes : Bytes}
    (refused : (scene.submit id bytes).1.isOk = false) : (scene.submit id bytes).2 = scene := by
  unfold submit ScriptStore.putEncoded at refused ⊢
  cases decoded : decode bytes with
  | error error => rfl
  | ok instructions =>
      rw [decoded] at refused
      cases refused

theorem submitBatch_of_refused {scene : Scene S} {entries : List (String × Bytes)}
    (refused : (scene.submitBatch entries).1.isOk = false) :
    (scene.submitBatch entries).2 = scene := by
  unfold submitBatch at refused ⊢
  cases decoded : decodeBatch entries with
  | error error => rfl
  | ok staged =>
      rw [decoded] at refused
      cases refused

theorem putAsset_of_refused {scene : Scene S} {id : String} {asset : Except AssetError Asset}
    (refused : (scene.putAsset id asset).1.isOk = false) :
    (scene.putAsset id asset).2 = scene := by
  cases asset with
  | error error => rfl
  | ok asset => cases refused

theorem delete_of_refused {scene : Scene S} (rooted : scene.scripts.Rooted) {id : String}
    (refused : (scene.delete id).1 = false) : (scene.delete id).2 = scene := by
  have absent : scene.scripts.contains id = false := refused
  unfold delete
  rw [rooted.delete_of_absent absent]
  rfl

theorem deleteAsset_of_refused {scene : Scene S} {kind : AssetKind} {id : String}
    (refused : (scene.deleteAsset kind id).1 = false) :
    (scene.deleteAsset kind id).2 = scene := by
  unfold deleteAsset at refused ⊢
  rcases deleted : scene.assets.delete kind id with ⟨_ | change, after⟩
  · have same : after = scene.assets := by
      rw [← AssetStore.delete_of_absent (congrArg Prod.fst deleted), deleted]
    rw [same]
  · rw [deleted] at refused
    cases refused

theorem edit_of_refused {decoder : ImageDecoder} {scene : Scene S}
    (rooted : scene.scripts.Rooted) {edit : SceneEdit}
    (refused : scene.accepts decoder edit = false) : scene.edit decoder edit = scene := by
  cases edit with
  | submit id bytes => exact submit_of_refused refused
  | submitRoot bytes => exact submit_of_refused refused
  | submitBatch entries => exact submitBatch_of_refused refused
  | delete id => exact delete_of_refused rooted refused
  | putImage id bytes => exact putAsset_of_refused refused
  | putStream id format width height bytes => exact putAsset_of_refused refused
  | putFont id bytes => exact putAsset_of_refused refused
  | deleteAsset kind id => exact deleteAsset_of_refused refused
  | _ => cases refused

end Scene

/-- **A refused operation leaves no trace.** After any edits, replays and redraws, with any
decoder of images and on canvases that fail whenever they like, an operation that a scene
refuses leaves the whole scene as it is: scripts, root and assets with all generations and
stamps, those given out later included, the shader cache with its counters, the clear
colour, the dirty flag and the number of pending events. So whatever happens later is as if
it had not been asked. -/
theorem refused_operation_leaves_no_trace (decoder : ImageDecoder) (config : SceneConfig)
    (events : List (SceneEvent S)) (edit : SceneEdit)
    (refused : (Timeline.ofEvents decoder config events).scene.accepts decoder edit = false) :
    (Timeline.ofEvents decoder config events).scene.edit decoder edit =
        (Timeline.ofEvents decoder config events).scene ∧
      ∀ later, Timeline.ofEvents decoder config (events ++ .edit edit :: later) =
        Timeline.ofEvents decoder config (events ++ later) := by
  have rooted := (Timeline.fresh_ofEvents decoder config events).rooted
  have same := Scene.edit_of_refused rooted refused
  refine ⟨same, fun later => ?_⟩
  have unserved : (Timeline.ofEvents decoder config events).serve decoder (.edit edit) =
      Timeline.ofEvents decoder config events := by
    rw [Timeline.serve, same]
  unfold Timeline.ofEvents at unserved ⊢
  rw [List.foldl_append, List.foldl_append, List.foldl_cons, unserved]

/-- The root has been deleted after a frame failed to end; deleting it again is refused,
and so is an image file without pixels. -/
theorem refused_operation_leaves_no_trace_of_root :
    let events : List (SceneEvent Nat) :=
      [.edit (.submitRoot []), .edit (.putFont "roboto" [1]),
        .redrawIfDirty Recording.canvas { failEnd := some (.present "end") },
        .edit (.delete rootId)]
    let empty : ImageDecoder := fun _ => .ok ⟨0, 1, #[], rfl⟩
    let scene := (Timeline.ofEvents empty {} events).scene
    ∀ edit ∈ [SceneEdit.delete rootId, .putImage "tile" [0]],
      scene.accepts empty edit = false ∧ scene.edit empty edit = scene ∧
        ∀ later, Timeline.ofEvents empty {} (events ++ .edit edit :: later) =
          Timeline.ofEvents empty {} (events ++ later) := by
  intro events empty scene edit asked
  have refused : ∀ edit ∈ [SceneEdit.delete rootId, .putImage "tile" [0]],
      scene.accepts empty edit = false := by decide +kernel
  exact ⟨refused edit asked,
    refused_operation_leaves_no_trace _ {} events edit (refused edit asked)⟩

end ScenePlayer
