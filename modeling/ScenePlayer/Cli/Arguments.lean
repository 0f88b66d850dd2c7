import ScenePlayer.Script.Store
import ScenePlayer.Settings.Literal

/-!
The arguments of the program. A flag takes the next argument as its value,
whatever it looks like. Other arguments name script files: `id=path`, or only
the path for the root script. Of a flag that takes one value the last one
counts; pairs and scripts are collected in order.
-/

namespace ScenePlayer

/-- An asset or a script and the file it is in. -/
structure NamedFile where
  id : String
  path : String
  deriving DecidableEq, Repr

inductive Flag where
  | out | size | clear | config | image | font
  deriving DecidableEq, Repr

namespace Flag

def text : Flag → String
  | .out => "--out"
  | .size => "--size"
  | .clear => "--clear"
  | .config => "--config"
  | .image => "--image"
  | .font => "--font"

def all : List Flag := [.out, .size, .clear, .config, .image, .font]

/-- The flag that an argument is. -/
def ofText (argument : String) : Option Flag := all.find? fun flag => flag.text = argument

end Flag

inductive ArgumentError where
  | missingValue (flag : Flag)
  /-- The value of a flag cannot be read. -/
  | badValue (flag : Flag) (value : String)
  | notPair (text : String)
  | unknownFlag (text : String)
  deriving DecidableEq, Repr

def ArgumentError.message : ArgumentError → String
  | .missingValue flag => flag.text ++ " needs a value"
  | .badValue flag value => "bad " ++ flag.text ++ s!" `{value}`"
  | .notPair text => s!"expected id=path, got `{text}`"
  | .unknownFlag text => s!"unknown flag `{text}`"

structure Arguments where
  out : Option String := none
  size : Option (Nat × Nat) := none
  clear : Option Colour := none
  config : Option String := none
  images : List NamedFile := []
  fonts : List NamedFile := []
  scripts : List NamedFile := []
  deriving DecidableEq, Repr

namespace Arguments

/-- Read a text of the form `id=path`; the path may hold more equals signs. -/
def pair (text : String) : Except ArgumentError NamedFile :=
  match splitFirst (· == '=') text.toList with
  | some (id, path) => .ok ⟨String.ofList id, String.ofList path⟩
  | none => .error (.notPair text)

/-- Take in a flag with its value. -/
def setFlag (flag : Flag) (value : String) (arguments : Arguments) :
    Except ArgumentError Arguments :=
  match flag with
  | .out => .ok { arguments with out := some value }
  | .size =>
      match viewportLiteral value with
      | some size => .ok { arguments with size := some size }
      | none => .error (.badValue flag value)
  | .clear =>
      match colourLiteral value with
      | some clear => .ok { arguments with clear := some clear }
      | none => .error (.badValue flag value)
  | .config => .ok { arguments with config := some value }
  | .image => do return { arguments with images := arguments.images ++ [← pair value] }
  | .font => do return { arguments with fonts := arguments.fonts ++ [← pair value] }

/-- Whether an argument looks like a flag. -/
def isFlag (argument : String) : Bool := ['-', '-'].isPrefixOf argument.toList

/-- Take in an argument that is no known flag. -/
def addScript (argument : String) (arguments : Arguments) : Except ArgumentError Arguments :=
  if isFlag argument then .error (.unknownFlag argument)
  else
    let file : NamedFile := match pair argument with
      | .ok file => file
      | .error _ => ⟨rootId, argument⟩
    .ok { arguments with scripts := arguments.scripts ++ [file] }

/-- Take in arguments in order. -/
def parseFrom (arguments : Arguments) : List String → Except ArgumentError Arguments
  | [] => .ok arguments
  | argument :: rest =>
      match Flag.ofText argument with
      | some flag =>
          match rest with
          | [] => .error (.missingValue flag)
          | value :: rest =>
              match arguments.setFlag flag value with
              | .ok arguments => parseFrom arguments rest
              | .error error => .error error
      | none =>
          match arguments.addScript argument with
          | .ok arguments => parseFrom arguments rest
          | .error error => .error error

def parse (arguments : List String) : Except ArgumentError Arguments := parseFrom {} arguments

/-- The files that the program reads. -/
def inputs (arguments : Arguments) : List String :=
  arguments.config.toList ++
    (arguments.images ++ arguments.fonts ++ arguments.scripts).map NamedFile.path

end Arguments

end ScenePlayer
