import ScenePlayer.Canvas.Screen
import ScenePlayer.Settings.Basic

/-!
The player: a scene and a surface of a screen behind a queue. Callers hand in encoded
scripts and assets; these are decoded on the spot, so a bad one is reported to
its caller and never queued. The queue is served in order. Ticks come between
commands at any time; a tick redraws the scene if something changed, and then
publishes the frame.
-/

namespace ScenePlayer

/-- What the player is asked to do, with payloads decoded. -/
inductive Command where
  | submit (id : String) (instructions : List Instruction)
  | submitBatch (entries : List (String × List Instruction))
  | delete (id : String)
  | reset
  | setClearColour (colour : Colour)
  | putAsset (id : String) (asset : Asset)
  | deleteAsset (kind : AssetKind) (id : String)
  | resize (width height : Nat)
  | requestRedraw
  deriving DecidableEq, Repr

/-- What a caller hands in. -/
inductive Call where
  | submit (id : String) (bytes : Bytes)
  | submitBatch (entries : List (String × Bytes))
  | delete (id : String)
  | reset
  | setClearColour (colour : Colour)
  | putImage (id : String) (bytes : Bytes)
  | putStream (id : String) (format : TextureFormat) (width height : Nat) (bytes : Bytes)
  | putFont (id : String) (bytes : Bytes)
  | deleteAsset (kind : AssetKind) (id : String)
  | resize (width height : Nat)
  | requestRedraw
  deriving DecidableEq, Repr

/-- Why a call is refused. -/
inductive CallError where
  | script (error : DecodeError)
  | asset (error : AssetError)
  deriving DecidableEq, Repr

def CallError.message : CallError → String
  | .script error => error.message
  | .asset error => error.message

namespace Call

variable (decoder : ImageDecoder)

/-- The command that stores a payload, if there is one. -/
def putCommand (id : String) (asset : Except AssetError Asset) : Except CallError Command :=
  match asset with
  | .ok asset => .ok (.putAsset id asset)
  | .error error => .error (.asset error)

/-- The command that a call queues, if its payload can be decoded. -/
def command : Call → Except CallError Command
  | .submit id bytes =>
      match decode bytes with
      | .ok instructions => .ok (.submit id instructions)
      | .error error => .error (.script error)
  | .submitBatch entries =>
      match decodeBatch entries with
      | .ok decoded => .ok (.submitBatch decoded)
      | .error error => .error (.script error)
  | .delete id => .ok (.delete id)
  | .reset => .ok .reset
  | .setClearColour colour => .ok (.setClearColour colour)
  | .putImage id bytes => putCommand id (Asset.ofImageFile decoder bytes)
  | .putStream id format width height bytes =>
      putCommand id (Asset.ofStreamUpload decoder format width height bytes)
  | .putFont id bytes => putCommand id (Asset.ofFontBytes bytes)
  | .deleteAsset kind id => .ok (.deleteAsset kind id)
  | .resize width height => .ok (.resize width height)
  | .requestRedraw => .ok .requestRedraw

end Call

/-- What the player serves one after another. -/
inductive Event where
  | command (command : Command)
  /-- It is time for a frame. -/
  | tick
  /-- A caller waits until everything before is done and shown. -/
  | flush
  | shutdown
  deriving DecidableEq, Repr

structure Player (σ S : Type) where
  scene : Scene S
  surface : σ
  /-- The frame published last. -/
  latest : Option Frame := none
  /-- The number of frames published. -/
  frames : Nat := 0
  /-- The number of scripts stored after the last command. -/
  scripts : Nat := 0

namespace Player

variable {σ S : Type} (screen : Screen σ S)

/-- A player with nothing in it. -/
def create (settings : Settings) : Except CanvasError (Player σ S) := do
  let surface ← screen.create settings.viewportWidth settings.viewportHeight
  return { scene := Scene.ofConfig settings.scene, surface }

/-- Give the surface another size; a size that it cannot have changes nothing. -/
def resize (width height : Nat) (player : Player σ S) : Player σ S :=
  match screen.resize width height player.surface with
  | (.ok (), surface) => { player with surface, scene := player.scene.mark }
  | (.error _, surface) => { player with surface }

/-- Carry out a command. -/
def perform (command : Command) (player : Player σ S) : Player σ S :=
  let scene := player.scene
  let after := match command with
    | .submit id instructions => { player with scene := scene.submitDecoded id instructions }
    | .submitBatch entries => { player with scene := scene.submitDecodedBatch entries }
    | .delete id => { player with scene := (scene.delete id).2 }
    | .reset => { player with scene := scene.reset }
    | .setClearColour colour => { player with scene := scene.setClearColour colour }
    | .putAsset id asset => { player with scene := scene.assetReady id asset }
    | .deleteAsset kind id => { player with scene := (scene.deleteAsset kind id).2 }
    | .resize width height => player.resize screen width height
    | .requestRedraw => { player with scene := scene.mark }
  { after with scripts := after.scene.scripts.size }

/-- Redraw if something changed, and publish the frame. -/
def tick (player : Player σ S) : Player σ S :=
  match player.scene.redrawIfDirty screen.canvas player.surface with
  | (.ok (some _), scene, surface) =>
      { player with
        scene
        surface
        latest := some (screen.frame surface)
        frames := player.frames + 1 }
  | (.ok none, scene, surface) => { player with scene, surface }
  | (.error _, scene, surface) => { player with scene, surface }

/-- Serve events up to a shutdown. -/
def serve : List Event → Player σ S → Player σ S
  | [], player => player
  | .command command :: rest, player => serve rest (player.perform screen command)
  | .tick :: rest, player => serve rest (player.tick screen)
  | .flush :: rest, player => serve rest (player.tick screen)
  | .shutdown :: _, player => player

/-- Make a call. -/
def call (decoder : ImageDecoder) (call : Call) (player : Player σ S) :
    Except CallError Unit × Player σ S :=
  match call.command decoder with
  | .ok command => (.ok (), serve screen [.command command] player)
  | .error error => (.error error, player)

/-- Wait until everything called for is done and shown. -/
def flush (player : Player σ S) : Player σ S := serve screen [.flush] player

end Player

end ScenePlayer
