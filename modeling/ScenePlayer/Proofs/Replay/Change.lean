import Mathlib.Logic.Relation
import ScenePlayer.Proofs.Paint.Coherence
import ScenePlayer.Proofs.Replay.Moment
import ScenePlayer.Proofs.State.Confinement

/-!
What one instruction does to a pass. Apart from a reference to another script, an
instruction is a number of changes (`Stage.changes_perform`): it draws on the
surface where the top state says, gives a warning, changes the stack or the path, or
restricts the clip.
Whatever these few changes preserve, every such instruction preserves.
-/

namespace ScenePlayer

/-- Whether a warning is about a reference that is not followed. -/
def ReplayWarning.isRefusal : ReplayWarning → Bool
  | .danglingReference .. => true
  | .cycleDetected _ => true
  | .depthExceeded .. => true
  | _ => false

variable {σ S : Type}

/-- One operation of a canvas within a frame: a shader is asked for, or something is drawn
at `place`. -/
inductive Canvas.Step (canvas : Canvas σ S) (place : Placement) (surface : σ) : σ → Prop where
  | buildShader (source : ShaderSource) :
      Step canvas place surface (canvas.buildShader source surface).2
  | fill (outline : Outline) (ink : Ink S) :
      Step canvas place surface (canvas.fill outline ink place surface)
  | stroke (outline : Outline) (ink : Ink S) (style : StrokeStyle) :
      Step canvas place surface (canvas.stroke outline ink style place surface)
  | text (run : TextRun) (ink : Ink S) :
      Step canvas place surface (canvas.text run ink place surface)
  | sprite (picture : Picture) (sprite : Sprite) :
      Step canvas place surface (canvas.sprite picture sprite place surface)

/-- Any number of operations of a canvas within a frame. -/
abbrev Canvas.Steps (canvas : Canvas σ S) (place : Placement) : σ → σ → Prop :=
  Relation.ReflTransGen (canvas.Step place)

namespace Pass

/-- One change of a pass by an instruction that refers to no script. -/
inductive Change (canvas : Canvas σ S) (pass : Pass σ S) : Pass σ S → Prop where
  /-- Operations of the canvas, some of them draws where the top state says, and shaders
  looked up or built. -/
  | draw {surface : σ} (steps : canvas.Steps pass.stack.top.placement pass.surface surface)
      (shaders : ShaderCache S) (number : Nat) :
      Change canvas pass
        { pass with
          surface
          shaders
          report := { pass.report with draws := pass.report.draws + number } }
  | warn {warning : ReplayWarning} (other : warning.isRefusal = false) :
      Change canvas pass (pass.warn warning)
  | stack {stack : StateStack} (change : pass.stack.Change stack) :
      Change canvas pass { pass with stack }
  | pen (pen : Pen) : Change canvas pass { pass with pen }
  | clip (outline : Option Outline) (mode : ClipMode) :
      Change canvas pass (pass.addClip outline mode)

/-- Any number of changes. -/
abbrev Changes (canvas : Canvas σ S) (pass : Pass σ S) : Pass σ S → Prop :=
  Relation.ReflTransGen (Change canvas) pass

variable {canvas : Canvas σ S}

theorem Change.changes {pass after : Pass σ S} (change : pass.Change canvas after) :
    pass.Changes canvas after :=
  .single change

theorem Change.visited {pass after : Pass σ S} (change : pass.Change canvas after) :
    after.report.visited = pass.report.visited := by
  cases change <;> rfl

theorem Change.refusals {pass after : Pass σ S} (change : pass.Change canvas after) :
    after.report.warnings.filter (·.isRefusal) = pass.report.warnings.filter (·.isRefusal) := by
  cases change with
  | warn other =>
      simp [Pass.warn, ReplayReport.warn, List.filter_append, other]
  | _ => rfl

theorem changes_editTop {edit : DrawState → DrawState} {pass : Pass σ S}
    (clip : (edit pass.stack.top).clip = pass.stack.top.clip) :
    pass.Changes canvas (pass.editTop edit) :=
  (Change.stack (.edit clip)).changes

theorem changes_editPen (edit : Pen → Pen) (pass : Pass σ S) :
    pass.Changes canvas (pass.editPen edit) :=
  (Change.pen (edit pass.pen)).changes

theorem changes_drawing {draw : σ → σ} {pass : Pass σ S}
    (steps : canvas.Steps pass.stack.top.placement pass.surface (draw pass.surface))
    (number : Nat) : pass.Changes canvas (pass.drawing number draw) :=
  (Change.draw steps pass.shaders number).changes

theorem changes_pop (script : String) (pass : Pass σ S) :
    pass.Changes canvas (pass.setStack script pass.stack.pop?) := by
  cases popped : pass.stack.pop? with
  | none => exact (Change.warn rfl).changes
  | some later => exact (Change.stack (.pop popped)).changes

theorem changes_popPush (script : String) (pass : Pass σ S) :
    pass.Changes canvas (pass.setStack script pass.stack.popPush?) := by
  unfold StateStack.popPush?
  cases popped : pass.stack.pop? with
  | none => exact (Change.warn rfl).changes
  | some later =>
      have pop : pass.Change canvas { pass with stack := later } := .stack (.pop popped)
      exact pop.changes.tail (.stack .push)

end Pass

namespace Stage

variable (stage : Stage σ S)

/-- Resolving a paint is at most one operation of the canvas. -/
theorem steps_resolve (paint : Paint) (place : Placement) (shaders : ShaderCache S)
    (surface : σ) :
    stage.canvas.Steps place surface
      (shaders.resolve stage.canvas.buildShader stage.assets paint surface).2.2 := by
  rcases ShaderCache.resolve_surface stage.canvas.buildShader stage.assets paint shaders surface
    with same | ⟨source, -, same⟩
  · rw [same]
  · rw [same]
    exact .single (.buildShader source)

theorem changes_withInk {draw : Ink S → Pass σ S → Pass σ S}
    (drawn : ∀ ink (pass : Pass σ S), pass.Changes stage.canvas (draw ink pass))
    (slot : PaintSlot) (pass : Pass σ S) :
    pass.Changes stage.canvas (stage.withInk slot draw pass) := by
  have steps := stage.steps_resolve (pass.stack.top.paint slot) pass.stack.top.placement
    pass.shaders pass.surface
  unfold withInk
  split
  rename_i answer shaders surface same
  rw [same] at steps
  have resolved : pass.Change stage.canvas { pass with shaders, surface } := .draw steps shaders 0
  refine .trans resolved.changes ?_
  cases answer with
  | ok ink => exact drawn ink _
  | error error => cases error <;> exact (Pass.Change.warn rfl).changes

theorem changes_fill (outline : Outline) (pass : Pass σ S) :
    pass.Changes stage.canvas (stage.fill outline pass) := by
  refine stage.changes_withInk (fun ink pass => ?_) _ pass
  exact Pass.changes_drawing (.single (.fill outline ink)) 1

theorem changes_stroke (outline : Outline) (pass : Pass σ S) :
    pass.Changes stage.canvas (stage.stroke outline pass) := by
  refine stage.changes_withInk (fun ink pass => ?_) _ pass
  exact Pass.changes_drawing (.single (.stroke outline ink _)) 1

theorem changes_drawShape (shape : Shape) (flags : DrawFlags) (pass : Pass σ S) :
    pass.Changes stage.canvas (stage.drawShape shape flags pass) := by
  unfold drawShape
  cases shape.outline? with
  | none => exact .refl
  | some outline =>
      have filled : pass.Changes stage.canvas
          (if flags.fills && shape.hasInterior then stage.fill outline pass else pass) := by
        split
        · exact stage.changes_fill outline pass
        · exact .refl
      dsimp only
      split
      · exact filled.trans (stage.changes_stroke outline _)
      · exact filled

theorem changes_drawText (text : String) (pass : Pass σ S) :
    pass.Changes stage.canvas (stage.drawText text pass) := by
  refine stage.changes_withInk (fun ink pass => ?_) _ pass
  exact Pass.changes_drawing (.single (.text _ ink)) 1

theorem steps_sprites (picture : Picture) (sprites : List Sprite) (place : Placement)
    (surface : σ) :
    stage.canvas.Steps place surface
      (sprites.foldl (fun surface sprite => stage.canvas.sprite picture sprite place surface)
        surface) := by
  induction sprites generalizing surface with
  | nil => exact .refl
  | cons first rest ih => exact .head (.sprite picture first) (ih _)

theorem changes_drawSprites (image : String) (sprites : List Sprite) (pass : Pass σ S) :
    pass.Changes stage.canvas (stage.drawSprites image sprites pass) := by
  unfold drawSprites
  split
  · exact (Pass.Change.warn rfl).changes
  · exact Pass.changes_drawing (stage.steps_sprites _ sprites _ pass.surface) _

theorem changes_withPath {draw : Outline → Pass σ S → Pass σ S}
    (drawn : ∀ outline (pass : Pass σ S), pass.Changes stage.canvas (draw outline pass))
    (script : String) (pass : Pass σ S) :
    pass.Changes stage.canvas (withPath script draw pass) := by
  unfold withPath
  split
  · exact drawn _ pass
  · exact (Pass.Change.warn rfl).changes

theorem changes_clipPath (script : String) (mode : ClipMode) (pass : Pass σ S) :
    pass.Changes stage.canvas
      ((if pass.pen.outline?.isNone then pass.warn (.emptyPath script) else pass).addClip
        pass.pen.outline? mode) := by
  split
  · have warned : pass.Change stage.canvas (pass.warn (.emptyPath script)) := .warn rfl
    exact warned.changes.tail (.clip _ mode)
  · exact (Pass.Change.clip _ mode).changes

/-- An instruction that refers to no script is a number of changes. -/
theorem changes_perform {instruction : Instruction} (plain : instruction.reference? = none)
    (descend : Option (Script → Pass σ S → Pass σ S)) (script : String) (pass : Pass σ S) :
    pass.Changes stage.canvas (stage.perform descend script instruction pass) := by
  cases instruction with
  | drawScript target => cases plain
  | pushState => exact (Pass.Change.stack .push).changes
  | popState => exact pass.changes_pop script
  | popPushState => exact pass.changes_popPush script
  | draw shape flags => exact stage.changes_drawShape shape flags pass
  | drawText text => exact stage.changes_drawText text pass
  | drawSprites image sprites => exact stage.changes_drawSprites image sprites pass
  | beginPath => exact (Pass.Change.pen {}).changes
  | fillPath => exact stage.changes_withPath stage.changes_fill script pass
  | strokePath => exact stage.changes_withPath stage.changes_stroke script pass
  | scissor width height => exact (Pass.Change.clip _ .intersect).changes
  | clipPath mode => exact stage.changes_clipPath script mode pass
  | closePath => exact pass.changes_editPen _
  | moveTo => exact pass.changes_editPen _
  | lineTo => exact pass.changes_editPen _
  | arcTo => exact pass.changes_editPen _
  | bezierTo => exact pass.changes_editPen _
  | quadraticTo => exact pass.changes_editPen _
  | addShape => exact pass.changes_editPen _
  | pathArc => exact pass.changes_editPen _
  | paint slot source =>
      refine Pass.changes_editTop ?_
      cases slot <;> rfl
  | _ => exact Pass.changes_editTop rfl

/-- What every change preserves, an instruction that refers to no script preserves. -/
theorem perform_of_change {P : Pass σ S → Prop}
    (kept : ∀ {pass after}, P pass → pass.Change stage.canvas after → P after)
    {instruction : Instruction}
    (plain : instruction.reference? = none) (descend : Option (Script → Pass σ S → Pass σ S))
    (script : String) {pass : Pass σ S} (holds : P pass) :
    P (stage.perform descend script instruction pass) := by
  have changes := stage.changes_perform plain descend script pass
  generalize stage.perform descend script instruction pass = after at changes
  induction changes with
  | refl => exact holds
  | tail _ change ih => exact kept ih change

end Stage

end ScenePlayer
