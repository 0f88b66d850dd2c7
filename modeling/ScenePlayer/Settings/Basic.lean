import ScenePlayer.Raster.Surface
import ScenePlayer.Scene
import ScenePlayer.Settings.Document
import ScenePlayer.Settings.Literal

/-!
Settings of a player. They are given in code, by a document or by the environment;
each of these brings them into usable ranges (`Settings.clamped`).
-/

namespace ScenePlayer

structure Settings where
  viewportWidth : Nat := Surface.defaultWidth
  viewportHeight : Nat := Surface.defaultHeight
  /-- The least time between two frames, in milliseconds. -/
  frameInterval : Nat := 16
  clearColour : Colour := Colour.black
  depthLimit : Nat := defaultDepthLimit
  idleFrames : Nat := ShaderCache.defaultIdleFrames
  threadName : String := "scene-render"
  deriving DecidableEq, Repr

namespace Settings

/-- The longest side of a viewport. -/
def longestSide : Nat := 16384

/-- Bring a number into a range. -/
def between (low high n : Nat) : Nat := max low (min n high)

/-- The nearest settings in usable ranges. -/
def clamped (settings : Settings) : Settings :=
  { settings with
    viewportWidth := between 1 longestSide settings.viewportWidth
    viewportHeight := between 1 longestSide settings.viewportHeight
    frameInterval := max settings.frameInterval 1
    depthLimit := max settings.depthLimit 1
    idleFrames := max settings.idleFrames 1
    threadName :=
      if settings.threadName.isEmpty then ({} : Settings).threadName else settings.threadName }

/-- The settings with a given viewport and frame interval. -/
def ofViewport (width height interval : Nat) : Settings :=
  { viewportWidth := width, viewportHeight := height, frameInterval := interval : Settings }.clamped

/-- What a scene takes of the settings. -/
def scene (settings : Settings) : SceneConfig where
  clearColour := settings.clearColour
  depthLimit := depthLimitOf settings.depthLimit
  idleFrames := settings.idleFrames

/-! ### The environment -/

/-- The variables of the environment that count. -/
def variableNames : List String :=
  ["SCENE_VIEWPORT", "SCENE_FRAME_INTERVAL_MS", "SCENE_CLEAR_COLOR", "SCENE_MAX_SCRIPT_DEPTH",
    "SCENE_SHADER_IDLE_FRAMES"]

/-- The value that a variable has, if it can be read, or else a given one. -/
def given (lookup : String → Option String) (name : String) {α : Type}
    (read : String → Option α) (usual : α) : α :=
  ((lookup name).bind read).getD usual

/-- The settings that the environment asks for. A value that cannot be read
counts as not given. -/
def ofEnvironment (lookup : String → Option String) : Settings :=
  let usual : Settings := {}
  let number := fun text => literal UInt64.size text.toList
  let viewport := given lookup "SCENE_VIEWPORT" viewportLiteral
    (usual.viewportWidth, usual.viewportHeight)
  clamped
    { viewportWidth := viewport.1
      viewportHeight := viewport.2
      frameInterval := given lookup "SCENE_FRAME_INTERVAL_MS" number usual.frameInterval
      clearColour := given lookup "SCENE_CLEAR_COLOR" colourLiteral usual.clearColour
      depthLimit := given lookup "SCENE_MAX_SCRIPT_DEPTH" number usual.depthLimit
      idleFrames := given lookup "SCENE_SHADER_IDLE_FRAMES" number usual.idleFrames }

/-! ### Documents -/

/-- The settings by name. -/
inductive Field where
  | viewportWidth
  | viewportHeight
  | frameInterval
  | clearColour
  | depthLimit
  | idleFrames
  | threadName
  deriving DecidableEq, Repr

namespace Field

/-- All fields in the order in which a list gives them. -/
def all : List Field :=
  [.viewportWidth, .viewportHeight, .frameInterval, .clearColour, .depthLimit, .idleFrames,
    .threadName]

def name : Field → String
  | .viewportWidth => "viewport_width"
  | .viewportHeight => "viewport_height"
  | .frameInterval => "frame_interval_ms"
  | .clearColour => "clear_color"
  | .depthLimit => "max_script_depth"
  | .idleFrames => "shader_idle_frames"
  | .threadName => "thread_name"

/-- The whole number below `bound` that a document is. -/
def whole (bound : Nat) : Document → Option Nat
  | .number (some n) => if n < bound then some n else none
  | _ => none

/-- The colour that a list of four channels is. -/
def colour : Document → Option Colour
  | .list [red, green, blue, alpha] => do
      let byte := fun document => (whole UInt8.size document).map UInt8.ofNat
      return ⟨← byte red, ← byte green, ← byte blue, ← byte alpha⟩
  | _ => none

def text : Document → Option String
  | .string text => text
  | _ => none

/-- Set a field to the value that a document is. -/
def set (field : Field) (document : Document) (settings : Settings) : Option Settings :=
  match field with
  | .viewportWidth => do
      return { settings with viewportWidth := ← whole UInt32.size document }
  | .viewportHeight => do
      return { settings with viewportHeight := ← whole UInt32.size document }
  | .frameInterval => do
      return { settings with frameInterval := ← whole UInt64.size document }
  | .clearColour => do return { settings with clearColour := ← colour document }
  | .depthLimit => do return { settings with depthLimit := ← whole UInt64.size document }
  | .idleFrames => do return { settings with idleFrames := ← whole UInt64.size document }
  | .threadName => do return { settings with threadName := ← text document }

end Field

/-- Set fields from a list, which may end early. -/
def setItems : List Field → List Document → Settings → Option Settings
  | _, [], settings => some settings
  | [], _ :: _, _ => none
  | field :: fields, document :: documents, settings =>
      (field.set document settings).bind (setItems fields documents)

/-- Set fields from the members of a record. Members of other names are ignored;
a field that is given twice is an error. `fields` are those not given so far. -/
def setMembers : (fields : List Field) → List (Option String × Document) → Settings →
    Option Settings
  | _, [], settings => some settings
  | _, (none, _) :: _, _ => none
  | fields, (some name, document) :: members, settings =>
      match Field.all.find? fun field => field.name = name with
      | none => setMembers fields members settings
      | some field =>
          if field ∈ fields then
            (field.set document settings).bind (setMembers (fields.erase field) members)
          else none

/-- The settings in the document that a text is; those it does not give are the
usual ones. -/
def ofDocument (read : DocumentReader) (text : String) : Option Settings := do
  match ← read text with
  | .list documents => return (← setItems Field.all documents {}).clamped
  | .record members => return (← setMembers Field.all members {}).clamped
  | _ => none

end Settings

end ScenePlayer
