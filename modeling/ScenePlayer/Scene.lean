import ScenePlayer.DirtyFlag
import ScenePlayer.Replay.Pass

/-!
A scene: scripts, assets, the shader cache and the dirty flag, for canvases with
shaders of type `S`. Every change that the next frame can show marks the scene
dirty, and every change of an asset drops the shader built from it. Operations
answer beside the scene they leave; where they fail, that is the old scene.
-/

namespace ScenePlayer

structure SceneConfig where
  clearColour : Colour := Colour.black
  depthLimit : Nat := defaultDepthLimit
  idleFrames : Nat := ShaderCache.defaultIdleFrames
  deriving DecidableEq, Repr

/-- A depth limit as scenes use it: the root is always within it. -/
def depthLimitOf (depth : Nat) : Nat := max depth 1

structure Scene (S : Type) where
  scripts : ScriptStore := {}
  assets : AssetStore := {}
  shaders : ShaderCache S := {}
  redraw : DirtyFlag := {}
  clearColour : Colour := Colour.black
  depthLimit : Nat := defaultDepthLimit

namespace Scene

variable {σ S : Type}

def ofConfig (config : SceneConfig) : Scene S where
  shaders := { idleFrames := config.idleFrames }
  clearColour := config.clearColour
  depthLimit := config.depthLimit

/-- Ask for a redraw. -/
def mark (scene : Scene S) : Scene S := { scene with redraw := scene.redraw.mark }

def isDirty (scene : Scene S) : Bool := scene.redraw.dirty

/-! ### Scripts -/

/-- Store a decoded script. -/
def submitDecoded (id : String) (instructions : List Instruction) (scene : Scene S) : Scene S :=
  { scene with scripts := scene.scripts.put id instructions }.mark

/-- Decode a script and store it. -/
def submit (id : String) (bytes : Bytes) (scene : Scene S) : Except DecodeError Unit × Scene S :=
  match scene.scripts.putEncoded id bytes with
  | (.error error, scripts) => (.error error, { scene with scripts })
  | (.ok _, scripts) => (.ok (), { scene with scripts }.mark)

/-- Decode the script with which frames start, and store it. -/
def submitRoot (bytes : Bytes) (scene : Scene S) : Except DecodeError Unit × Scene S :=
  scene.submit rootId bytes

/-- Store decoded scripts as one change; no scripts are no change. -/
def submitDecodedBatch (entries : List (String × List Instruction)) (scene : Scene S) : Scene S :=
  if entries.isEmpty then scene
  else { scene with scripts := scene.scripts.putBatch entries }.mark

/-- Decode all scripts of a batch, then store them as one change. -/
def submitBatch (entries : List (String × Bytes)) (scene : Scene S) :
    Except DecodeError Unit × Scene S :=
  match decodeBatch entries with
  | .error error => (.error error, scene)
  | .ok decoded => (.ok (), scene.submitDecodedBatch decoded)

/-- Remove a script; the answer is whether there was one. -/
def delete (id : String) (scene : Scene S) : Bool × Scene S :=
  match scene.scripts.delete id with
  | (removed, scripts) =>
      let after := { scene with scripts }
      (removed, if removed then after.mark else after)

/-- Drop all scripts; assets stay. -/
def reset (scene : Scene S) : Scene S := { scene with scripts := scene.scripts.clear }.mark

/-- Another colour than the one in use is a change. -/
def setClearColour (colour : Colour) (scene : Scene S) : Scene S :=
  if scene.clearColour = colour then scene else { scene with clearColour := colour }.mark

/-! ### Assets -/

/-- Drop the shader of a changed asset and ask for a redraw. -/
def assetChanged (change : AssetChange) (scene : Scene S) : Scene S :=
  { scene with shaders := (scene.shaders.invalidate change.kind change.id).2 }.mark

/-- Store a payload. -/
def assetReady (id : String) (asset : Asset) (scene : Scene S) : Scene S :=
  match scene.assets.insert id asset with
  | (change, assets) => { scene with assets }.assetChanged change

/-- Store a payload that may have been refused. -/
def putAsset (id : String) (asset : Except AssetError Asset) (scene : Scene S) :
    Except AssetError Unit × Scene S :=
  match scene.assets.put id asset with
  | (.error error, assets) => (.error error, { scene with assets })
  | (.ok change, assets) => (.ok (), { scene with assets }.assetChanged change)

/-- Store an image from an image file. -/
def putImage (decoder : ImageDecoder) (id : String) (bytes : Bytes) (scene : Scene S) :
    Except AssetError Unit × Scene S :=
  scene.putAsset id (Asset.ofImageFile decoder bytes)

/-- Store a frame of a streamed texture. -/
def putStream (decoder : ImageDecoder) (id : String) (format : TextureFormat) (width height : Nat)
    (bytes : Bytes) (scene : Scene S) : Except AssetError Unit × Scene S :=
  scene.putAsset id (Asset.ofStreamUpload decoder format width height bytes)

/-- Store the bytes of a font file. -/
def putFont (id : String) (bytes : Bytes) (scene : Scene S) : Except AssetError Unit × Scene S :=
  scene.putAsset id (Asset.ofFontBytes bytes)

/-- Remove an asset; the answer is whether there was one. -/
def deleteAsset (kind : AssetKind) (id : String) (scene : Scene S) : Bool × Scene S :=
  match scene.assets.delete kind id with
  | (none, assets) => (false, { scene with assets })
  | (some change, assets) => (true, { scene with assets }.assetChanged change)

/-! ### Frames -/

/-- What a replay of the scene keeps fixed. -/
def stage (canvas : Canvas σ S) (scene : Scene S) : Stage σ S where
  canvas
  scripts := scene.scripts
  assets := scene.assets
  depthLimit := scene.depthLimit

/-- Replay the root, dirty or not. -/
def replayFrame (canvas : Canvas σ S) (scene : Scene S) (surface : σ) :
    Except ReplayError ReplayReport × Scene S × σ :=
  match (scene.stage canvas).replay scene.clearColour scene.shaders surface with
  | (answer, shaders, surface) => (answer, { scene with shaders }, surface)

/-- Replay once if anything changed since the last call. A missing root is no
failure, and a failing canvas leaves the scene dirty. -/
def redrawIfDirty (canvas : Canvas σ S) (scene : Scene S) (surface : σ) :
    Except CanvasError (Option ReplayReport) × Scene S × σ :=
  match scene.redraw.take with
  | (none, redraw) => (.ok none, { scene with redraw }, surface)
  | (some _, redraw) =>
      match { scene with redraw }.replayFrame canvas surface with
      | (.ok report, scene, surface) => (.ok (some report), scene, surface)
      | (.error .missingRoot, scene, surface) => (.ok none, scene, surface)
      | (.error (.canvas error), scene, surface) => (.error error, scene.mark, surface)

end Scene

end ScenePlayer
