import ScenePlayer.Canvas.Basic

/-!
A canvas that draws nothing and writes down what it is asked to do. Its shaders
are numbered in the order in which they are built. It can be told to decline
kinds of shaders, and to fail the next start or end of a frame once; a failing
start or end is not written down.
-/

namespace ScenePlayer

/-- One operation asked of a canvas, for shaders of type `S`. -/
inductive CanvasCall (S : Type) where
  | beginFrame (clear : Colour)
  | buildShader (source : ShaderSource) (shader : Option S)
  | fill (outline : Outline) (ink : Ink S) (place : Placement)
  | stroke (outline : Outline) (ink : Ink S) (style : StrokeStyle) (place : Placement)
  | text (run : TextRun) (ink : Ink S) (place : Placement)
  | sprite (picture : Picture) (sprite : Sprite) (place : Placement)
  | endFrame
  deriving DecidableEq, Repr

/-- The kinds of shaders that can be declined. -/
inductive ShaderKind where
  | linear
  | radial
  | image
  deriving DecidableEq, Repr

def ShaderSource.kind : ShaderSource → ShaderKind
  | .gradient (.linear ..) => .linear
  | .gradient (.radial ..) => .radial
  | .texture _ => .image

structure Recording where
  /-- The calls so far, latest first. -/
  log : List (CanvasCall Nat) := []
  /-- The number of the shader built last. -/
  built : Nat := 0
  declined : List ShaderKind := []
  failBegin : Option CanvasError := none
  failEnd : Option CanvasError := none

namespace Recording

def note (call : CanvasCall Nat) (r : Recording) : Recording := { r with log := call :: r.log }

/-- The calls so far in order, and the recording without them. -/
def drain (r : Recording) : List (CanvasCall Nat) × Recording :=
  (r.log.reverse, { r with log := [] })

def buildShader (source : ShaderSource) (r : Recording) : Option Nat × Recording :=
  if source.kind ∈ r.declined then (none, r.note (.buildShader source none))
  else
    let number := r.built + 1
    (some number, { r.note (.buildShader source (some number)) with built := number })

def beginFrame (clear : Colour) (r : Recording) : Except CanvasError Unit × Recording :=
  match r.failBegin with
  | some error => (.error error, { r with failBegin := none })
  | none => (.ok (), r.note (.beginFrame clear))

def endFrame (r : Recording) : Except CanvasError Unit × Recording :=
  match r.failEnd with
  | some error => (.error error, { r with failEnd := none })
  | none => (.ok (), r.note .endFrame)

/-- The canvas that records. -/
def canvas : Canvas Recording Nat where
  buildShader := buildShader
  beginFrame := beginFrame
  fill outline ink place := note (.fill outline ink place)
  stroke outline ink style place := note (.stroke outline ink style place)
  text run ink place := note (.text run ink place)
  sprite picture sprite place := note (.sprite picture sprite place)
  endFrame := endFrame

end Recording

end ScenePlayer
