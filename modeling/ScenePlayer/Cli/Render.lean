import ScenePlayer.Cli.Arguments
import ScenePlayer.Cli.FileFormat
import ScenePlayer.Cli.Folder
import ScenePlayer.Player

/-!
The program: render the root script of some script files as one frame. What can
go wrong is met in the order in which it is listed in `RenderError`.
-/

namespace ScenePlayer

inductive RenderError where
  | arguments (error : ArgumentError)
  | noOutput
  | noScripts
  | readConfig (path : String) (error : FileError)
  | parseConfig (path : String)
  | start (error : CanvasError)
  | readImage (path : String) (error : FileError)
  | loadImage (id : String) (error : CallError)
  | readFont (path : String) (error : FileError)
  | loadFont (id : String) (error : CallError)
  | readScript (path : String) (error : FileError)
  | decode (error : CallError)
  | noFrame
  | write (path : String) (cause : String)
  deriving DecidableEq, Repr

namespace RenderError

/-- What was being done, or the error itself if nothing lies behind it. -/
def summary : RenderError → String
  | .arguments error => error.message
  | .noOutput => "--out is required"
  | .noScripts => "no scripts given"
  | .readConfig path _ => "reading config " ++ path
  | .parseConfig path => "parsing config " ++ path
  | .start _ => "starting renderer"
  | .readImage path _ => "reading image " ++ path
  | .loadImage id _ => s!"loading image `{id}`"
  | .readFont path _ => "reading font " ++ path
  | .loadFont id _ => s!"loading font `{id}`"
  | .readScript path _ => "reading script " ++ path
  | .decode _ => "decoding scripts"
  | .noFrame => "no frame was rendered; is a root script present?"
  | .write path _ => "writing " ++ path

/-- The causes of a refused call, outermost first. -/
def callCauses (error : CallError) : List String :=
  error.message ::
    match error with
    | .asset (.undecodable causes) => causes
    | _ => []

/-- What lies behind an error, outermost first. -/
def causes : RenderError → List String
  | .readConfig _ error => [error.message]
  | .parseConfig _ => ["invalid driver configuration"]
  | .start error => [error.message]
  | .readImage _ error => [error.message]
  | .loadImage _ error => callCauses error
  | .readFont _ error => [error.message]
  | .loadFont _ error => callCauses error
  | .readScript _ error => [error.message]
  | .decode error => callCauses error
  | .write _ cause => [cause]
  | _ => []

/-- How the program is used. -/
def usage : String :=
  "Usage:\n  render_script --out <PNG> [--size WxH] [--clear r,g,b,a] [--config <JSON>]\n" ++
    "                [--image id=path]... [--font id=path]... <root> [id=path]...\n"

/-- Whether the usage is shown with an error. -/
def showsUsage : RenderError → Bool
  | .noOutput => true
  | .noScripts => true
  | _ => false

/-- The causes, indented; several are numbered. -/
def causeLines : List String → List String
  | [] => []
  | [cause] => ["", "Caused by:", "    " ++ cause]
  | causes =>
      "" :: "Caused by:" :: causes.zipIdx.map fun (cause, i) => s!"    {i}: " ++ cause

/-- What the program writes about an error. -/
def text (error : RenderError) : String :=
  let lines := ("Error: " ++ error.summary) :: causeLines error.causes
  (if error.showsUsage then usage else "") ++ String.join (lines.map (· ++ "\n"))

end RenderError

/-- What the program leaves to others: a screen to draw on, and readers of image
files and of config files. -/
structure Backend (σ S : Type) where
  screen : Screen σ S
  decoder : ImageDecoder
  reader : DocumentReader

namespace Render

/-- The settings that a config file gives, or else the environment. -/
def baseSettings (reader : DocumentReader) (arguments : Arguments)
    (environment : String → Option String) (folder : Folder) : Except RenderError Settings :=
  match arguments.config with
  | none => .ok (Settings.ofEnvironment environment)
  | some path => do
      let text ← (folder.readText path).mapError (.readConfig path)
      match Settings.ofDocument reader text with
      | some settings => .ok settings
      | none => .error (.parseConfig path)

/-- The settings for a run. A size and a colour given as arguments are taken as
they are. -/
def settings (reader : DocumentReader) (arguments : Arguments)
    (environment : String → Option String) (folder : Folder) : Except RenderError Settings := do
  let settings ← baseSettings reader arguments environment folder
  let (width, height) := arguments.size.getD (settings.viewportWidth, settings.viewportHeight)
  return { settings with
    viewportWidth := width
    viewportHeight := height
    clearColour := arguments.clear.getD settings.clearColour }

variable {σ S : Type} (backend : Backend σ S)

/-- Read a file and hand it in as a call. -/
def load (readError : String → FileError → RenderError)
    (loadError : String → CallError → RenderError)
    (call : String → Bytes → Call) (folder : Folder) (player : Player σ S) (file : NamedFile) :
    Except RenderError (Player σ S) := do
  let bytes ← (folder.read file.path).mapError (readError file.path)
  match player.call backend.screen backend.decoder (call file.id bytes) with
  | (.ok (), player) => .ok player
  | (.error error, _) => .error (loadError file.id error)

/-- The scripts in files. -/
def readScripts (folder : Folder) (files : List NamedFile) :
    Except RenderError (List (String × Bytes)) :=
  files.mapM fun file => do
    return (file.id, ← (folder.read file.path).mapError (.readScript file.path))

/-- Load everything and show the frame. -/
def play (arguments : Arguments) (folder : Folder) (player : Player σ S) :
    Except RenderError Frame := do
  let player ← arguments.images.foldlM (load backend .readImage .loadImage .putImage folder) player
  let player ← arguments.fonts.foldlM (load backend .readFont .loadFont .putFont folder) player
  let scripts ← readScripts folder arguments.scripts
  match player.call backend.screen backend.decoder (.submitBatch scripts) with
  | (.error error, _) => .error (.decode error)
  | (.ok (), player) =>
      match (player.flush backend.screen).latest with
      | some frame => .ok frame
      | none => .error .noFrame

/-- A frame to be written to a file. -/
structure Output where
  path : String
  frame : Frame
  deriving DecidableEq, Repr

/-- What goes into the file of an output. The name of the file has to tell a
format. -/
def Output.content (output : Output) : Except RenderError FileContent :=
  match FileFormat.ofPath output.path with
  | .ok format => .ok (format.content output.frame)
  | .error cause => .error (.write output.path cause)

/-- Run the program up to its output. -/
def run (words : List String) (environment : String → Option String) (folder : Folder) :
    Except RenderError Output := do
  let arguments ← (Arguments.parse words).mapError .arguments
  match arguments.out with
  | none => .error .noOutput
  | some path =>
      if arguments.scripts.isEmpty then .error .noScripts
      else
        let settings ← settings backend.reader arguments environment folder
        let player ← (Player.create backend.screen settings).mapError .start
        return ⟨path, ← play backend arguments folder player⟩

/-- Write an output into a folder. A file whose format holds no frame is begun all
the same. -/
def Output.save (output : Output) (folder : Folder) : Except RenderError Folder := do
  let content ← output.content
  let folder ← (folder.write output.path content.bytes).mapError fun error =>
    .write output.path error.message
  match content.shortfall with
  | some cause => .error (.write output.path cause)
  | none => .ok folder

end Render

end ScenePlayer
