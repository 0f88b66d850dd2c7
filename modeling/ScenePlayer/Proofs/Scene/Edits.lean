import ScenePlayer.Proofs.Asset.Edits
import ScenePlayer.Proofs.Paint.Coherence
import ScenePlayer.Proofs.Script.Edits
import ScenePlayer.Scene

/-!
Edits of a scene: whatever is asked of it apart from drawing. An edit changes the
scripts as an edit of the script store does and the assets as an edit of the asset
store does, and it leaves what a frame shows as it is or the scene dirty (`Edited`,
`edited_edit`). The latter takes that the root is the well-known script: deleting a
script that is not stored would drop another designation without a mark.
-/

namespace ScenePlayer

/-- An operation on a scene that draws nothing, with its arguments. A mark made
through a handle takes two steps, between which other operations may come. -/
inductive SceneEdit where
  | submit (id : String) (bytes : Bytes)
  | submitRoot (bytes : Bytes)
  | submitDecoded (id : String) (instructions : List Instruction)
  | submitBatch (entries : List (String × Bytes))
  | submitDecodedBatch (entries : List (String × List Instruction))
  | delete (id : String)
  | reset
  | setClearColour (colour : Colour)
  | putImage (id : String) (bytes : Bytes)
  | putStream (id : String) (format : TextureFormat) (width height : Nat) (bytes : Bytes)
  | putFont (id : String) (bytes : Bytes)
  | assetReady (id : String) (asset : Asset)
  | deleteAsset (kind : AssetKind) (id : String)
  | requestRedraw
  | handleCounts
  | handleRaises
  deriving DecidableEq, Repr

namespace SceneEdit

/-- What an edit does to the scripts. -/
def script? : SceneEdit → Option ScriptEdit
  | submit id bytes => some (.putEncoded id bytes)
  | submitRoot bytes => some (.putEncoded rootId bytes)
  | submitDecoded id instructions => some (.put id instructions)
  | submitBatch entries => some (.putEncodedBatch entries)
  | submitDecodedBatch entries => some (.putBatch entries)
  | delete id => some (.delete id)
  | reset => some .clear
  | _ => none

/-- What an edit does to the assets. -/
def asset? : SceneEdit → Option AssetEdit
  | putImage id bytes => some (.putImage id bytes)
  | putStream id format width height bytes => some (.putStream id format width height bytes)
  | putFont id bytes => some (.putFont id bytes)
  | assetReady id asset => some (.insert id asset)
  | deleteAsset kind id => some (.delete kind id)
  | _ => none

/-- The clear colour that an edit sets. -/
def colour? : SceneEdit → Option Colour
  | setClearColour colour => some colour
  | _ => none

end SceneEdit

variable {S : Type}

namespace Scene

/-- The scene that an operation leaves. -/
def edit (decoder : ImageDecoder) (scene : Scene S) : SceneEdit → Scene S
  | .submit id bytes => (scene.submit id bytes).2
  | .submitRoot bytes => (scene.submitRoot bytes).2
  | .submitDecoded id instructions => scene.submitDecoded id instructions
  | .submitBatch entries => (scene.submitBatch entries).2
  | .submitDecodedBatch entries => scene.submitDecodedBatch entries
  | .delete id => (scene.delete id).2
  | .reset => scene.reset
  | .setClearColour colour => scene.setClearColour colour
  | .putImage id bytes => (scene.putImage decoder id bytes).2
  | .putStream id format width height bytes =>
      (scene.putStream decoder id format width height bytes).2
  | .putFont id bytes => (scene.putFont id bytes).2
  | .assetReady id asset => scene.assetReady id asset
  | .deleteAsset kind id => (scene.deleteAsset kind id).2
  | .requestRedraw => scene.mark
  | .handleCounts => { scene with redraw := scene.redraw.count }
  | .handleRaises => { scene with redraw := scene.redraw.raise }

/-- A frame shows the same of two scenes. -/
structure Alike (scene other : Scene S) : Prop where
  scripts : scene.scripts = other.scripts
  assets : scene.assets = other.assets
  clearColour : scene.clearColour = other.clearColour
  depthLimit : scene.depthLimit = other.depthLimit

namespace Alike

variable {scene other third : Scene S}

theorem refl (scene : Scene S) : Alike scene scene := ⟨rfl, rfl, rfl, rfl⟩

theorem symm (alike : Alike scene other) : Alike other scene :=
  ⟨alike.scripts.symm, alike.assets.symm, alike.clearColour.symm, alike.depthLimit.symm⟩

theorem trans (first : Alike scene other) (second : Alike other third) : Alike scene third :=
  ⟨first.scripts.trans second.scripts, first.assets.trans second.assets,
    first.clearColour.trans second.clearColour, first.depthLimit.trans second.depthLimit⟩

/-- Whether a frame is due and which shaders are kept is not seen in a frame. -/
theorem unseen (alike : Alike scene other) (redraw : DirtyFlag) (shaders : ShaderCache S) :
    Alike { scene with redraw, shaders } other :=
  ⟨alike.scripts, alike.assets, alike.clearColour, alike.depthLimit⟩

end Alike

/-! ### What an edit does -/

variable {decoder : ImageDecoder}

/-- What an edit makes of a scene. -/
structure Edited (decoder : ImageDecoder) (edit : SceneEdit) (before after : Scene S) : Prop where
  scripts : after.scripts = edit.script?.elim before.scripts before.scripts.edit
  assets : after.assets = edit.asset?.elim before.assets (before.assets.edit decoder)
  clearColour : after.clearColour = edit.colour?.getD before.clearColour
  depthLimit : after.depthLimit = before.depthLimit
  /-- At most one shader is dropped. -/
  shaders : after.shaders = before.shaders ∨
    ∃ kind id, after.shaders = (before.shaders.invalidate kind id).2
  /-- What a frame shows has changed only if the scene is dirty. -/
  clean : before.scripts.Rooted → after.isDirty = false →
    before.isDirty = false ∧ Alike after before

/-- An edit that marks the scene. -/
theorem Edited.of_dirty {edit : SceneEdit} {before after : Scene S}
    (dirty : after.isDirty = true)
    (scripts : after.scripts = edit.script?.elim before.scripts before.scripts.edit)
    (assets : after.assets = edit.asset?.elim before.assets (before.assets.edit decoder))
    (clearColour : after.clearColour = edit.colour?.getD before.clearColour)
    (depthLimit : after.depthLimit = before.depthLimit)
    (shaders : after.shaders = before.shaders ∨
      ∃ kind id, after.shaders = (before.shaders.invalidate kind id).2) :
    Edited decoder edit before after := by
  refine ⟨scripts, assets, clearColour, depthLimit, shaders, fun _ clean => ?_⟩
  rw [dirty] at clean
  cases clean

/-- An edit that does nothing. -/
theorem Edited.of_same {edit : SceneEdit} {scene : Scene S}
    (scripts : scene.scripts = edit.script?.elim scene.scripts scene.scripts.edit)
    (assets : scene.assets = edit.asset?.elim scene.assets (scene.assets.edit decoder))
    (clearColour : scene.clearColour = edit.colour?.getD scene.clearColour) :
    Edited decoder edit scene scene :=
  ⟨scripts, assets, clearColour, rfl, .inl rfl, fun _ clean => ⟨clean, .refl scene⟩⟩

theorem edited_submit (scene : Scene S) (id : String) (bytes : Bytes) :
    Edited decoder (.submit id bytes) scene (scene.submit id bytes).2 := by
  have scripts : (SceneEdit.submit id bytes).script?.elim scene.scripts scene.scripts.edit =
    (scene.scripts.putEncoded id bytes).2 := rfl
  unfold Scene.submit
  unfold ScriptStore.putEncoded at scripts ⊢
  cases decoded : decode bytes with
  | error error =>
      rw [decoded] at scripts
      exact .of_same scripts.symm rfl rfl
  | ok instructions =>
      rw [decoded] at scripts
      exact .of_dirty rfl scripts.symm rfl rfl rfl (.inl rfl)

theorem edited_submitDecodedBatch (scene : Scene S)
    (entries : List (String × List Instruction)) :
    Edited decoder (.submitDecodedBatch entries) scene (scene.submitDecodedBatch entries) := by
  cases entries with
  | nil => exact .of_same rfl rfl rfl
  | cons entry rest => exact .of_dirty rfl rfl rfl rfl rfl (.inl rfl)

theorem edited_submitBatch (scene : Scene S) (entries : List (String × Bytes)) :
    Edited decoder (.submitBatch entries) scene (scene.submitBatch entries).2 := by
  have scripts : (SceneEdit.submitBatch entries).script?.elim scene.scripts scene.scripts.edit =
    (scene.scripts.putEncodedBatch entries).2 := rfl
  unfold Scene.submitBatch
  unfold ScriptStore.putEncodedBatch at scripts
  cases decoded : decodeBatch entries with
  | error error =>
      rw [decoded] at scripts
      exact .of_same scripts.symm rfl rfl
  | ok staged =>
      rw [decoded] at scripts
      obtain ⟨same, assets, clearColour, depthLimit, shaders, clean⟩ :=
        scene.edited_submitDecodedBatch staged
      exact ⟨same.trans scripts.symm, assets, clearColour, depthLimit, shaders, clean⟩

theorem edited_delete (scene : Scene S) (id : String) :
    Edited decoder (.delete id) scene (scene.delete id).2 := by
  have scripts : (SceneEdit.delete id).script?.elim scene.scripts scene.scripts.edit =
    (scene.scripts.delete id).2 := rfl
  have answer : (scene.scripts.delete id).1 = scene.scripts.contains id := rfl
  unfold Scene.delete
  rcases deleted : scene.scripts.delete id with ⟨_ | _, after⟩
  · rw [deleted] at scripts answer
    refine ⟨scripts.symm, rfl, rfl, rfl, .inl rfl, fun rooted clean => ⟨clean, ?_⟩⟩
    have same := rooted.delete_of_absent answer.symm
    rw [deleted] at same
    exact ⟨(Prod.mk.inj same).2, rfl, rfl, rfl⟩
  · rw [deleted] at scripts
    exact .of_dirty rfl scripts.symm rfl rfl rfl (.inl rfl)

theorem edited_setClearColour (scene : Scene S) (colour : Colour) :
    Edited decoder (.setClearColour colour) scene (scene.setClearColour colour) := by
  unfold Scene.setClearColour
  split
  · rename_i same
    exact .of_same rfl rfl same
  · exact .of_dirty rfl rfl rfl rfl rfl (.inl rfl)

/-- A payload that was refused does nothing. -/
theorem edited_putAsset {edit : SceneEdit} (scene : Scene S) (id : String)
    (asset : Except AssetError Asset) (script : edit.script? = none)
    (stores : edit.asset?.elim scene.assets (scene.assets.edit decoder) =
      (scene.assets.put id asset).2)
    (colour : edit.colour? = none) : Edited decoder edit scene (scene.putAsset id asset).2 := by
  unfold Scene.putAsset
  cases asset with
  | error error => exact .of_same (by rw [script]; rfl) stores.symm (by rw [colour]; rfl)
  | ok asset =>
      exact .of_dirty rfl (by rw [script]; rfl) stores.symm (by rw [colour]; rfl) rfl
        (.inr ⟨_, _, rfl⟩)

theorem edited_deleteAsset (scene : Scene S) (kind : AssetKind) (id : String) :
    Edited decoder (.deleteAsset kind id) scene (scene.deleteAsset kind id).2 := by
  have assets : (SceneEdit.deleteAsset kind id).asset?.elim scene.assets
    (scene.assets.edit decoder) =
    (scene.assets.delete kind id).2 := rfl
  unfold Scene.deleteAsset
  rcases deleted : scene.assets.delete kind id with ⟨_ | change, after⟩
  · rw [deleted] at assets
    have same : after = scene.assets := by
      rw [← AssetStore.delete_of_absent (congrArg Prod.fst deleted), deleted]
    rw [same] at assets ⊢
    exact .of_same rfl assets.symm rfl
  · rw [deleted] at assets
    exact .of_dirty rfl rfl assets.symm rfl rfl (.inr ⟨_, _, rfl⟩)

/-- Every operation does what its edit says. -/
theorem edited_edit (decoder : ImageDecoder) (scene : Scene S) (edit : SceneEdit) :
    Edited decoder edit scene (scene.edit decoder edit) := by
  cases edit with
  | submit id bytes => exact scene.edited_submit id bytes
  | submitRoot bytes =>
      obtain ⟨scripts, assets, clearColour, depthLimit, shaders, clean⟩ :=
        scene.edited_submit rootId bytes
      exact ⟨scripts, assets, clearColour, depthLimit, shaders, clean⟩
  | submitDecoded id instructions => exact .of_dirty rfl rfl rfl rfl rfl (.inl rfl)
  | submitBatch entries => exact scene.edited_submitBatch entries
  | submitDecodedBatch entries => exact scene.edited_submitDecodedBatch entries
  | delete id => exact scene.edited_delete id
  | reset => exact .of_dirty rfl rfl rfl rfl rfl (.inl rfl)
  | setClearColour colour => exact scene.edited_setClearColour colour
  | putImage id bytes => exact scene.edited_putAsset id _ rfl rfl rfl
  | putStream id format width height bytes => exact scene.edited_putAsset id _ rfl rfl rfl
  | putFont id bytes => exact scene.edited_putAsset id _ rfl rfl rfl
  | assetReady id asset => exact .of_dirty rfl rfl rfl rfl rfl (.inr ⟨_, _, rfl⟩)
  | deleteAsset kind id => exact scene.edited_deleteAsset kind id
  | requestRedraw => exact .of_dirty rfl rfl rfl rfl rfl (.inl rfl)
  | handleCounts =>
      exact ⟨rfl, rfl, rfl, rfl, .inl rfl, fun _ clean => ⟨clean, rfl, rfl, rfl, rfl⟩⟩
  | handleRaises => exact .of_dirty rfl rfl rfl rfl rfl (.inl rfl)

/-! ### What edits preserve -/

section Edited

variable {edit : SceneEdit} {before after : Scene S} (edited : Edited decoder edit before after)

include edited

theorem Edited.rooted (rooted : before.scripts.Rooted) : after.scripts.Rooted := by
  rw [edited.scripts]
  cases named : edit.script? with
  | none => exact rooted
  | some change =>
      refine rooted.edit change ?_
      rintro id rfl
      cases edit <;> cases named

theorem Edited.textless (textless : before.scripts.Textless)
    (new : ∀ change, edit.script? = some change → change.Textless) : after.scripts.Textless := by
  rw [edited.scripts]
  cases named : edit.script? with
  | none => exact textless
  | some change => exact textless.edit (new change named)

theorem Edited.coherent {Built : ShaderSource → Option S → Prop}
    (coherent : before.shaders.Coherent Built before.assets) :
    after.shaders.Coherent Built after.assets := by
  have kept : before.shaders.Coherent Built after.assets := by
    rw [edited.assets]
    cases edit.asset? with
    | none => exact coherent
    | some change => exact coherent.editAssets decoder change
  rcases edited.shaders with same | ⟨kind, id, dropped⟩
  · rwa [same]
  · rw [dropped]
    exact kept.invalidate kind id

end Edited

/-- Scenes of which a frame shows the same are edited alike. -/
theorem Alike.edit {scene other : Scene S} (alike : Alike scene other)
    (decoder : ImageDecoder) (edit : SceneEdit) :
    Alike (scene.edit decoder edit) (other.edit decoder edit) := by
  have left := scene.edited_edit decoder edit
  have right := other.edited_edit decoder edit
  refine ⟨?_, ?_, ?_, ?_⟩
  · rw [left.scripts, right.scripts, alike.scripts]
  · rw [left.assets, right.assets, alike.assets]
  · rw [left.clearColour, right.clearColour, alike.clearColour]
  · rw [left.depthLimit, right.depthLimit, alike.depthLimit]

end Scene

end ScenePlayer
