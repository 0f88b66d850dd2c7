import ScenePlayer.Cli.Plain

/-!
The program on real files: what it reads is fetched beforehand, and its output is
written at the end.
-/

namespace ScenePlayer

/-- Why a file cannot be read or written. -/
def FileError.ofError : IO.Error → FileError
  | .noFileOrDirectory .. => .missing
  | .permissionDenied .. => .denied
  | .inappropriateType .. => .isFolder
  | unknown => .other unknown.toString

/-- The files at the given paths. -/
def fetch (paths : List String) : IO Folder := do
  let mut folder : Folder := {}
  for path in paths do
    let content ← try
        let bytes ← IO.FS.readBinFile path
        pure (.ok bytes.data.toList)
      catch error => pure (.error (.ofError error))
    folder := folder.add path content
  return folder

/-- The variables of the environment that count. -/
def fetchVariables : IO (List (String × String)) := do
  let mut found := []
  for name in Settings.variableNames do
    if let some value ← IO.getEnv name then found := (name, value) :: found
  return found

/-- Write an output to its file. -/
def Render.Output.store (output : Render.Output) : IO (Except RenderError Unit) := do
  match output.content with
  | .error error => return .error error
  | .ok content =>
      let failed := fun cause => Except.error (.write output.path cause)
      try
        IO.FS.writeBinFile output.path ⟨content.bytes.toArray⟩
        return content.shortfall.elim (.ok ()) failed
      catch error => return failed (FileError.ofError error).message

/-- Run the program with the given arguments; the answer is its exit status. -/
def program (words : List String) : IO UInt32 := do
  let paths := match Arguments.parse words with
    | .ok arguments => arguments.inputs
    | .error _ => []
  let folder ← fetch paths
  let given ← fetchVariables
  let done ← match Render.run .plain words (fun name => List.lookup name given) folder with
    | .ok output => output.store
    | .error error => pure (.error error)
  match done with
  | .ok () => return 0
  | .error error =>
      (← IO.getStderr).putStr error.text
      return 1

end ScenePlayer

def main (words : List String) : IO UInt32 := ScenePlayer.program words
