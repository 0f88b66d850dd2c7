import ScenePlayer.Proofs.Paint.View
import ScenePlayer.Proofs.Replay.ActiveScripts

/-!
Replays on a part of a surface. A canvas may keep more than another one does and
still treat a part of its surface as the other treats the whole of its own
(`Canvas.Shows`). A replay on it is then, seen through that part, the replay on the
other: same answer, same shader cache (`Stage.run_view`). In particular a canvas may
note the clips of its draws (`Canvas.noting`) without any change to what is drawn.
-/

namespace ScenePlayer

variable {τ σ S : Type}

/-- A canvas that treats the part of its surface seen through `view` as `plain` treats
its surface. -/
structure Canvas.Shows (view : τ → σ) (canvas : Canvas τ S) (plain : Canvas σ S) : Prop where
  buildShader : ShaderCache.Shows view canvas.buildShader plain.buildShader
  beginFrame : ∀ clear surface, plain.beginFrame clear (view surface) =
    ((canvas.beginFrame clear surface).1, view (canvas.beginFrame clear surface).2)
  fill : ∀ outline ink place surface,
    view (canvas.fill outline ink place surface) = plain.fill outline ink place (view surface)
  stroke : ∀ outline ink style place surface,
    view (canvas.stroke outline ink style place surface) =
      plain.stroke outline ink style place (view surface)
  text : ∀ run ink place surface,
    view (canvas.text run ink place surface) = plain.text run ink place (view surface)
  sprite : ∀ picture sprite place surface,
    view (canvas.sprite picture sprite place surface) =
      plain.sprite picture sprite place (view surface)
  endFrame : ∀ surface, plain.endFrame (view surface) =
    ((canvas.endFrame surface).1, view (canvas.endFrame surface).2)

/-- The same pass on a part of its surface. -/
def Pass.view (view : τ → σ) (pass : Pass τ S) : Pass σ S :=
  { pass with surface := view pass.surface }

@[simp] theorem Pass.active_view (view : τ → σ) (pass : Pass τ S) :
    (pass.view view).active = pass.active := rfl

@[simp] theorem Pass.pen_view (view : τ → σ) (pass : Pass τ S) :
    (pass.view view).pen = pass.pen := rfl

namespace Stage

/-- The same stage with another canvas. -/
def withCanvas (canvas : Canvas τ S) (stage : Stage σ S) : Stage τ S := { stage with canvas }

variable {view : τ → σ} {canvas : Canvas τ S} {stage : Stage σ S}

section Shows

variable (shows : canvas.Shows view stage.canvas)

include shows

theorem view_withInk {draw : Ink S → Pass τ S → Pass τ S} {plain : Ink S → Pass σ S → Pass σ S}
    (drawn : ∀ ink pass, (draw ink pass).view view = plain ink (pass.view view))
    (slot : PaintSlot) (pass : Pass τ S) :
    ((stage.withCanvas canvas).withInk slot draw pass).view view =
      stage.withInk slot plain (pass.view view) := by
  have resolved := shows.buildShader.resolve stage.assets (pass.stack.top.paint slot) pass.shaders
    pass.surface
  simp only [withInk, Pass.view, resolved, withCanvas]
  rcases pass.shaders.resolve canvas.buildShader stage.assets (pass.stack.top.paint slot)
    pass.surface with ⟨error | ink, shaders, surface⟩
  · cases error <;> rfl
  · exact drawn ink _

theorem view_fill (outline : Outline) (pass : Pass τ S) :
    ((stage.withCanvas canvas).fill outline pass).view view =
      stage.fill outline (pass.view view) := by
  refine view_withInk shows (fun ink pass => ?_) .fill pass
  simp only [Pass.view, Pass.drawing, withCanvas, shows.fill]

theorem view_stroke (outline : Outline) (pass : Pass τ S) :
    ((stage.withCanvas canvas).stroke outline pass).view view =
      stage.stroke outline (pass.view view) := by
  refine view_withInk shows (fun ink pass => ?_) .stroke pass
  simp only [Pass.view, Pass.drawing, withCanvas, shows.stroke]

theorem view_drawShape (shape : Shape) (flags : DrawFlags) (pass : Pass τ S) :
    ((stage.withCanvas canvas).drawShape shape flags pass).view view =
      stage.drawShape shape flags (pass.view view) := by
  unfold drawShape
  cases shape.outline? with
  | none => rfl
  | some outline =>
      dsimp only
      split
      · rw [view_stroke shows]
        split
        · rw [view_fill shows]
        · rfl
      · split
        · exact view_fill shows outline pass
        · rfl

theorem view_drawText (text : String) (pass : Pass τ S) :
    ((stage.withCanvas canvas).drawText text pass).view view =
      stage.drawText text (pass.view view) := by
  refine view_withInk shows (fun ink pass => ?_) .fill pass
  simp only [Pass.view, Pass.drawing, withCanvas, shows.text]

theorem view_sprites (picture : Picture) (sprites : List Sprite) (place : Placement)
    (surface : τ) :
    view (sprites.foldl (fun surface sprite => canvas.sprite picture sprite place surface)
        surface) =
      sprites.foldl (fun surface sprite => stage.canvas.sprite picture sprite place surface)
        (view surface) := by
  induction sprites generalizing surface with
  | nil => rfl
  | cons first rest ih => rw [List.foldl_cons, ih, shows.sprite, List.foldl_cons]

theorem view_drawSprites (image : String) (sprites : List Sprite) (pass : Pass τ S) :
    ((stage.withCanvas canvas).drawSprites image sprites pass).view view =
      stage.drawSprites image sprites (pass.view view) := by
  simp only [drawSprites, withCanvas]
  cases stage.assets.texture? image with
  | none => rfl
  | some texture => simp only [Pass.drawing, Pass.view, view_sprites shows]

end Shows

theorem view_withPath {draw : Outline → Pass τ S → Pass τ S}
    {plain : Outline → Pass σ S → Pass σ S}
    (drawn : ∀ outline pass, (draw outline pass).view view = plain outline (pass.view view))
    (script : String) (pass : Pass τ S) :
    (withPath script draw pass).view view = withPath script plain (pass.view view) := by
  simp only [withPath, Pass.pen_view]
  cases pass.pen.outline? with
  | none => rfl
  | some outline => exact drawn outline pass

theorem view_setStack (script : String) (stack : Option StateStack) (pass : Pass τ S) :
    (pass.setStack script stack).view view = (pass.view view).setStack script stack := by
  cases stack <;> rfl

theorem view_clipPath (script : String) (mode : ClipMode) (outline : Option Outline)
    (pass : Pass τ S) :
    ((if outline.isNone then pass.warn (.emptyPath script) else pass).addClip outline
      mode).view view =
      (if outline.isNone then (pass.view view).warn (.emptyPath script)
        else pass.view view).addClip outline mode := by
  cases outline <;> rfl

/-! ### Walks -/

section Descend

variable {descend : Option (Script → Pass τ S → Pass τ S)}
  {plain : Option (Script → Pass σ S → Pass σ S)}
  (followed : Option.Rel (fun walk plain => ∀ script pass,
    (walk script pass).view view = plain script (pass.view view)) descend plain)

include followed

theorem view_drawScript (caller target : String) (pass : Pass τ S) :
    ((stage.withCanvas canvas).drawScript descend caller target pass).view view =
      stage.drawScript plain caller target (pass.view view) := by
  unfold drawScript
  rw [Pass.active_view]
  by_cases active : target ∈ pass.active
  · rw [if_pos active, if_pos active]
    rfl
  · rw [if_neg active, if_neg active]
    cases followed with
    | none => rfl
    | some same =>
        dsimp only [withCanvas]
        cases stage.scripts.find? target with
        | none => rfl
        | some script =>
            have walked := same script { pass with stack := pass.stack.enter.2, pen := {} }
            exact congrArg (fun after : Pass σ S =>
              { after with pen := pass.pen, stack := after.stack.exit pass.stack.enter.1 }) walked

variable (shows : canvas.Shows view stage.canvas)

include shows

theorem view_perform (script : String) (instruction : Instruction) (pass : Pass τ S) :
    ((stage.withCanvas canvas).perform descend script instruction pass).view view =
      stage.perform plain script instruction (pass.view view) := by
  cases instruction with
  | draw shape flags => exact view_drawShape shows shape flags pass
  | drawText text => exact view_drawText shows text pass
  | drawSprites image sprites => exact view_drawSprites shows image sprites pass
  | drawScript target => exact view_drawScript followed script target pass
  | fillPath => exact view_withPath (view_fill shows) script pass
  | strokePath => exact view_withPath (view_stroke shows) script pass
  | popState => exact view_setStack script _ pass
  | popPushState => exact view_setStack script _ pass
  | clipPath mode => exact view_clipPath script mode _ pass
  | _ => rfl

theorem view_foldl (script : String) (instructions : List Instruction) (pass : Pass τ S) :
    (instructions.foldl (fun pass instruction =>
        (stage.withCanvas canvas).perform descend script instruction pass) pass).view view =
      instructions.foldl (fun pass instruction => stage.perform plain script instruction pass)
        (pass.view view) := by
  induction instructions generalizing pass with
  | nil => rfl
  | cons first rest ih => rw [List.foldl_cons, ih, view_perform followed shows, List.foldl_cons]

theorem view_walkWith (script : Script) (pass : Pass τ S) :
    ((stage.withCanvas canvas).walkWith descend script pass).view view =
      stage.walkWith plain script (pass.view view) := by
  rw [walkWith_eq, walkWith_eq]
  have walked := view_foldl followed shows script.id script.instructions (pass.entering script.id)
  exact congrArg Pass.leaving walked

end Descend

section Shows

variable (shows : canvas.Shows view stage.canvas)

include shows

theorem view_walk (levels : Nat) (script : Script) (pass : Pass τ S) :
    ((stage.withCanvas canvas).walk levels script pass).view view =
      stage.walk levels script (pass.view view) := by
  induction levels generalizing script pass with
  | zero => exact view_walkWith .none shows script pass
  | succ levels ih => exact view_walkWith (.some ih) shows script pass

/-- A replay answers as the one on the part that is seen, and leaves that part as the
other leaves its surface. -/
theorem run_view (root : String) (clear : Colour) (shaders : ShaderCache S) (surface : τ) :
    let (answer, after, drawn) := (stage.withCanvas canvas).run root clear shaders surface
    stage.run root clear shaders (view surface) = (answer, after, view drawn) := by
  simp only [run, shows.beginFrame]
  have same : (stage.withCanvas canvas).scripts = stage.scripts := rfl
  rw [same]
  cases stage.scripts.find? root with
  | none => rfl
  | some script =>
      dsimp only [withCanvas]
      rcases canvas.beginFrame clear surface with ⟨error | ⟨⟨⟩⟩, opened⟩
      · rfl
      · let entering : Pass τ S := { surface := opened, shaders }
        have walked : stage.walk (stage.depthLimit - 1) script { surface := view opened, shaders } =
            ((stage.withCanvas canvas).walk (stage.depthLimit - 1) script entering).view view :=
          (view_walk shows _ script entering).symm
        simp only [walked, Pass.view, shows.endFrame, withCanvas]
        rcases canvas.endFrame _ with ⟨error | ⟨⟨⟩⟩, closed⟩ <;> rfl

theorem replay_view (clear : Colour) (shaders : ShaderCache S) (surface : τ) :
    let (answer, after, drawn) := (stage.withCanvas canvas).replay clear shaders surface
    stage.replay clear shaders (view surface) = (answer, after, view drawn) := by
  have same : (stage.withCanvas canvas).scripts = stage.scripts := rfl
  simp only [replay, same]
  cases stage.scripts.root with
  | none => rfl
  | some root => exact run_view shows root clear shaders surface

end Shows

end Stage

/-! ### Noting clips -/

/-- A canvas that notes the clip of each of its draws, latest first. -/
def Canvas.noting (canvas : Canvas σ S) : Canvas (σ × List Clip) S where
  buildShader source state :=
    let (shader, surface) := canvas.buildShader source state.1
    (shader, surface, state.2)
  beginFrame clear state :=
    let (answer, surface) := canvas.beginFrame clear state.1
    (answer, surface, state.2)
  fill outline ink place state :=
    (canvas.fill outline ink place state.1, place.clip :: state.2)
  stroke outline ink style place state :=
    (canvas.stroke outline ink style place state.1, place.clip :: state.2)
  text run ink place state := (canvas.text run ink place state.1, place.clip :: state.2)
  sprite picture sprite place state :=
    (canvas.sprite picture sprite place state.1, place.clip :: state.2)
  endFrame state :=
    let (answer, surface) := canvas.endFrame state.1
    (answer, surface, state.2)

/-- The same stage, with the clips of all draws noted. -/
def Stage.noting (stage : Stage σ S) : Stage (σ × List Clip) S :=
  stage.withCanvas stage.canvas.noting

theorem Canvas.shows_noting (canvas : Canvas σ S) : canvas.noting.Shows Prod.fst canvas where
  buildShader _ _ := rfl
  beginFrame _ _ := rfl
  fill _ _ _ _ := rfl
  stroke _ _ _ _ _ := rfl
  text _ _ _ _ := rfl
  sprite _ _ _ _ := rfl
  endFrame _ := rfl

end ScenePlayer
