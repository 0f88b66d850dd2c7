import ScenePlayer.Bytes.Utf8
import ScenePlayer.Table

/-!
A folder of files as the program meets it: a file has bytes, or a reason why it
cannot be read.
-/

namespace ScenePlayer

/-- Why a file cannot be read or written. -/
inductive FileError where
  | missing
  | denied
  | isFolder
  /-- The bytes are asked for as text, and are none. -/
  | notText
  | other (reason : String)
  deriving DecidableEq, Repr

def FileError.message : FileError → String
  | .missing => "No such file or directory (os error 2)"
  | .denied => "Permission denied (os error 13)"
  | .isFolder => "Is a directory (os error 21)"
  | .notText => "stream did not contain valid UTF-8"
  | .other reason => reason

structure Folder where
  files : Table String (Except FileError Bytes) := ∅

namespace Folder

/-- A path without leading steps to the folder itself. -/
def skipHere : List Char → List Char
  | '.' :: '/' :: rest => skipHere rest
  | path => path

/-- The name in the folder that a path leads to. -/
def nameOf (path : String) : String := String.ofList (skipHere path.toList)

/-- Put a file into the folder, in place of what was there. -/
def add (path : String) (content : Except FileError Bytes) (folder : Folder) : Folder :=
  ⟨folder.files.insert (nameOf path) content⟩

def read (folder : Folder) (path : String) : Except FileError Bytes :=
  (folder.files.find? (nameOf path)).getD (.error .missing)

/-- The text in a file, all of whose bytes have to be well-formed. -/
def readText (folder : Folder) (path : String) : Except FileError String := do
  let bytes ← folder.read path
  let text := Utf8.read bytes
  if Utf8.write text = bytes then .ok text else .error .notText

/-- Make or replace a file. There are no folders in the folder, so a path that
leads into one leads nowhere. -/
def write (path : String) (bytes : Bytes) (folder : Folder) : Except FileError Folder :=
  if '/' ∈ (nameOf path).toList then .error .missing else .ok (folder.add path (.ok bytes))

end Folder

end ScenePlayer
