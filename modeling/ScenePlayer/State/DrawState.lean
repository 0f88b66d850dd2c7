import ScenePlayer.Geometry.Pen
import ScenePlayer.Script.Instruction

/-!
The draw state: everything that a draw reads at the moment it is issued.
-/

namespace ScenePlayer

structure StrokeStyle where
  width : Scalar := 1
  cap : LineCap := .butt
  join : LineJoin := .miter
  miterLimit : Scalar := 4
  deriving DecidableEq, Repr

structure TextStyle where
  /-- The identifier under which the font is registered. -/
  font : String := "roboto"
  size : Scalar := 20
  align : TextAlign := .left
  baseline : TextBaseline := .alphabetic
  deriving DecidableEq, Repr

/-- One region of a clip. A region without an outline is empty. -/
structure ClipNode where
  /-- Unique within one replay; surfaces may keep masks under it. -/
  id : Nat
  outline : Option Outline
  transform : Transform
  mode : ClipMode
  deriving DecidableEq, Repr

/-- A clip: the regions that apply, innermost first. The regions behind a node
are its ancestors. No region at all is no restriction. -/
abbrev Clip : Type := List ClipNode

/-- Everything that a draw reads. -/
structure DrawState where
  transform : Transform := Transform.identity
  fill : Paint := .colour Colour.white
  stroke : Paint := .colour Colour.white
  strokeStyle : StrokeStyle := {}
  textStyle : TextStyle := {}
  clip : Clip := []
  deriving DecidableEq, Repr

namespace DrawState

def paint (state : DrawState) : PaintSlot → Paint
  | .fill => state.fill
  | .stroke => state.stroke

def setPaint (slot : PaintSlot) (paint : Paint) (state : DrawState) : DrawState :=
  match slot with
  | .fill => { state with fill := paint }
  | .stroke => { state with stroke := paint }

/-- Apply an inner map before the current transform. -/
def concat (inner : Transform) (state : DrawState) : DrawState :=
  { state with transform := state.transform.precede inner }

/-- Restrict draws further by a region in the current transform. -/
def addClip (id : Nat) (outline : Option Outline) (mode : ClipMode) (state : DrawState) :
    DrawState :=
  { state with clip := ⟨id, outline, state.transform, mode⟩ :: state.clip }

def editStroke (edit : StrokeStyle → StrokeStyle) (state : DrawState) : DrawState :=
  { state with strokeStyle := edit state.strokeStyle }

def editText (edit : TextStyle → TextStyle) (state : DrawState) : DrawState :=
  { state with textStyle := edit state.textStyle }

end DrawState

end ScenePlayer
