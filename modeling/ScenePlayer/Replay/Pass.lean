import ScenePlayer.Replay.Report
import ScenePlayer.Script.Store
import ScenePlayer.State.Stack

/-!
One replay pass. The root script is walked in order; state instructions change
an explicit stack, and draws are issued with the top state as it is at that
moment. A reference to another script is followed if the script is stored, is
not being walked already and is not nested too deeply. It then starts on the
caller's state, in a scope of its own and with a path of its own.

How many levels are left is the argument on which `Stage.walk` recurs.
-/

namespace ScenePlayer

/-- How many scripts may be active at a time unless told otherwise. -/
def defaultDepthLimit : Nat := 64

/-- What stays fixed during a pass. -/
structure Stage (σ : Type) (S : Type) where
  canvas : Canvas σ S
  scripts : ScriptStore
  assets : AssetStore
  /-- How many scripts may be active at a time; the root is walked in any case. -/
  depthLimit : Nat

/-- What a pass changes as it goes. -/
structure Pass (σ : Type) (S : Type) where
  surface : σ
  shaders : ShaderCache S
  stack : StateStack := {}
  /-- The scripts being walked, the root first. -/
  active : List String := []
  pen : Pen := {}
  /-- The clip identifier given out last. -/
  clipId : Nat := 0
  report : ReplayReport := {}

variable {σ S : Type}

namespace Pass

def warn (warning : ReplayWarning) (pass : Pass σ S) : Pass σ S :=
  { pass with report := pass.report.warn warning }

def editTop (edit : DrawState → DrawState) (pass : Pass σ S) : Pass σ S :=
  { pass with stack := pass.stack.editTop edit }

def editPen (edit : Pen → Pen) (pass : Pass σ S) : Pass σ S := { pass with pen := edit pass.pen }

/-- Count `number` draw calls made on the surface by `draw`. -/
def drawing (number : Nat) (draw : σ → σ) (pass : Pass σ S) : Pass σ S :=
  { pass with
    surface := draw pass.surface
    report := { pass.report with draws := pass.report.draws + number } }

/-- Replace the stack, or warn that there was nothing to pop. -/
def setStack (script : String) (stack : Option StateStack) (pass : Pass σ S) : Pass σ S :=
  match stack with
  | some stack => { pass with stack }
  | none => pass.warn (.unbalancedPop script)

/-- Restrict draws by a new region with an identifier of its own. -/
def addClip (outline : Option Outline) (mode : ClipMode) (pass : Pass σ S) : Pass σ S :=
  { pass.editTop (DrawState.addClip (pass.clipId + 1) outline mode) with
    clipId := pass.clipId + 1 }

end Pass

namespace Stage

/-- Resolve a paint of the top state, and draw with it if that succeeds. -/
def withInk (stage : Stage σ S) (slot : PaintSlot) (draw : Ink S → Pass σ S → Pass σ S)
    (pass : Pass σ S) : Pass σ S :=
  match pass.shaders.resolve stage.canvas.buildShader stage.assets (pass.stack.top.paint slot)
      pass.surface with
  | (answer, shaders, surface) =>
      let pass := { pass with shaders, surface }
      match answer with
      | .ok ink => draw ink pass
      | .error (.missingAsset kind id) => pass.warn (.missingAsset kind id)
      | .error .unsupported => pass.warn .unsupportedPaint

def fill (stage : Stage σ S) (outline : Outline) (pass : Pass σ S) : Pass σ S :=
  stage.withInk .fill (fun ink pass =>
    pass.drawing 1 (stage.canvas.fill outline ink pass.stack.top.placement)) pass

def stroke (stage : Stage σ S) (outline : Outline) (pass : Pass σ S) : Pass σ S :=
  stage.withInk .stroke (fun ink pass =>
    let state := pass.stack.top
    pass.drawing 1 (stage.canvas.stroke outline ink state.strokeStyle state.placement)) pass

/-- Fill and stroke a shape as its flags ask; degenerate shapes are skipped. -/
def drawShape (stage : Stage σ S) (shape : Shape) (flags : DrawFlags) (pass : Pass σ S) :
    Pass σ S :=
  match shape.outline? with
  | none => pass
  | some outline =>
      let pass := if flags.fills && shape.hasInterior then stage.fill outline pass else pass
      if flags.strokes then stage.stroke outline pass else pass

def drawText (stage : Stage σ S) (text : String) (pass : Pass σ S) : Pass σ S :=
  stage.withInk .fill (fun ink pass =>
    let state := pass.stack.top
    let run : TextRun := ⟨text, state.textStyle, stage.assets.font? state.textStyle.font⟩
    pass.drawing 1 (stage.canvas.text run ink state.placement)) pass

/-- Copy parts of an image; streams serve where there is no image. -/
def drawSprites (stage : Stage σ S) (image : String) (sprites : List Sprite)
    (pass : Pass σ S) : Pass σ S :=
  match stage.assets.texture? image with
  | none => pass.warn (.missingAsset .image image)
  | some texture =>
      let place := pass.stack.top.placement
      pass.drawing sprites.length fun surface =>
        sprites.foldl (fun surface sprite =>
          stage.canvas.sprite texture.picture sprite place surface) surface

/-- Draw with the path at hand, or warn that it is empty. -/
def withPath (script : String) (draw : Outline → Pass σ S → Pass σ S) (pass : Pass σ S) :
    Pass σ S :=
  match pass.pen.outline? with
  | some outline => draw outline pass
  | none => pass.warn (.emptyPath script)

/-- Follow a reference by `descend`, which is missing if no level is left. -/
def drawScript (stage : Stage σ S) (descend : Option (Script → Pass σ S → Pass σ S))
    (caller target : String) (pass : Pass σ S) : Pass σ S :=
  if target ∈ pass.active then pass.warn (.cycleDetected (pass.active ++ [target]))
  else
    match descend with
    | none => pass.warn (.depthExceeded target pass.active.length)
    | some walk =>
        match stage.scripts.find? target with
        | none => pass.warn (.danglingReference caller target)
        | some script =>
            let (scope, stack) := pass.stack.enter
            let after := walk script { pass with stack, pen := {} }
            { after with pen := pass.pen, stack := after.stack.exit scope }

/-- Carry out one instruction of a script. -/
def perform (stage : Stage σ S) (descend : Option (Script → Pass σ S → Pass σ S))
    (script : String) (instruction : Instruction) (pass : Pass σ S) : Pass σ S :=
  match instruction with
  | .pushState => { pass with stack := pass.stack.push }
  | .popState => pass.setStack script pass.stack.pop?
  | .popPushState => pass.setStack script pass.stack.popPush?
  | .translate x y => pass.editTop (.concat (.shift x y))
  | .scale x y => pass.editTop (.concat (.scaling x y))
  | .rotate radians => pass.editTop (.concat (.rotation radians))
  | .transform matrix => pass.editTop (.concat matrix)
  | .paint slot source => pass.editTop (.setPaint slot source)
  | .strokeWidth width => pass.editTop (.editStroke fun style => { style with width })
  | .lineCap cap => pass.editTop (.editStroke fun style => { style with cap })
  | .lineJoin join => pass.editTop (.editStroke fun style => { style with join })
  | .miterLimit limit => pass.editTop (.editStroke fun style => { style with miterLimit := limit })
  | .font id => pass.editTop (.editText fun style => { style with font := id })
  | .fontSize size => pass.editTop (.editText fun style => { style with size })
  | .textAlign align => pass.editTop (.editText fun style => { style with align })
  | .textBaseline baseline => pass.editTop (.editText fun style => { style with baseline })
  | .draw shape flags => stage.drawShape shape flags pass
  | .drawText text => stage.drawText text pass
  | .drawSprites image sprites => stage.drawSprites image sprites pass
  | .drawScript target => stage.drawScript descend script target pass
  | .beginPath => { pass with pen := {} }
  | .closePath => pass.editPen .close
  | .fillPath => withPath script stage.fill pass
  | .strokePath => withPath script stage.stroke pass
  | .moveTo point => pass.editPen (.moveTo point)
  | .lineTo point => pass.editPen (.lineTo point)
  | .arcTo tangent stop radius => pass.editPen (.arcTo tangent stop radius)
  | .bezierTo control₁ control₂ stop => pass.editPen (.cubicTo control₁ control₂ stop)
  | .quadraticTo control stop => pass.editPen (.quadTo control stop)
  | .addShape shape => pass.editPen (.addShape shape)
  | .pathArc centre radius start stop turn => pass.editPen (.arc centre radius start stop turn)
  | .scissor width height => pass.addClip (Shape.rect width height).outline? .intersect
  | .clipPath mode =>
      let outline := pass.pen.outline?
      (if outline.isNone then pass.warn (.emptyPath script) else pass).addClip outline mode

/-- Carry out the instructions of a script, which is active meanwhile. -/
def walkWith (stage : Stage σ S) (descend : Option (Script → Pass σ S → Pass σ S))
    (script : Script) (pass : Pass σ S) : Pass σ S :=
  let entered :=
    { pass with
      active := pass.active ++ [script.id]
      report := { pass.report with visited := pass.report.visited + 1 } }
  let after := script.instructions.foldl (fun pass instruction =>
    stage.perform descend script.id instruction pass) entered
  { after with active := after.active.dropLast }

/-- Walk a script below which `levels` more may be nested. -/
def walk (stage : Stage σ S) : (levels : Nat) → Script → Pass σ S → Pass σ S
  | 0 => stage.walkWith none
  | levels + 1 => stage.walkWith (some (stage.walk levels))

/-- Replay the script `root` as one frame. The shader cache goes on to its next
frame only if this one is finished. -/
def run (stage : Stage σ S) (root : String) (clear : Colour) (shaders : ShaderCache S)
    (surface : σ) : Except ReplayError ReplayReport × ShaderCache S × σ :=
  match stage.scripts.find? root with
  | none => (.error .missingRoot, shaders, surface)
  | some script =>
      match stage.canvas.beginFrame clear surface with
      | (.error error, surface) => (.error (.canvas error), shaders, surface)
      | (.ok (), surface) =>
          let pass := stage.walk (stage.depthLimit - 1) script { surface, shaders }
          match stage.canvas.endFrame pass.surface with
          | (.error error, surface) => (.error (.canvas error), pass.shaders, surface)
          | (.ok (), surface) => (.ok pass.report, pass.shaders.endFrame.2, surface)

/-- Replay the designated root. -/
def replay (stage : Stage σ S) (clear : Colour) (shaders : ShaderCache S) (surface : σ) :
    Except ReplayError ReplayReport × ShaderCache S × σ :=
  match stage.scripts.root with
  | none => (.error .missingRoot, shaders, surface)
  | some root => stage.run root clear shaders surface

end Stage

end ScenePlayer
