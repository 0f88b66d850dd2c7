import ScenePlayer.Proofs.Canvas.Trace
import ScenePlayer.Proofs.Replay.Quiet

/-!
What a walk does to a pass, taken apart (`Stage.Action`): changes of the state alone,
draws that are counted, paints that are resolved. Which of these follow each other is
decided by the state and by the inks, never by a look at the surface or at the shader
cache. Walks of all depths are put together in this way (`Stage.action_walk`), so what
holds of the parts and of their composition holds of every walk.
-/

namespace ScenePlayer

variable {σ S : Type}

/-- A change of passes that is made up of quiet changes, counted draws and resolutions. -/
inductive Stage.Action (stage : Stage σ S) : (Pass σ S → Pass σ S) → Prop where
  /-- The state changes, and no draw is counted. -/
  | quiet {change : Pass σ S → Pass σ S} (quiet : Pass.Quiet change)
      (uncounted : ∀ pass, (change pass).report.draws = pass.report.draws) : Action stage change
  /-- Something is drawn, and each draw is counted. -/
  | draws {calls : List (CanvasCall S)} (drawn : ∀ call ∈ calls, call.isDraw = true) :
      Action stage (Pass.drawing calls.length (stage.canvas.draws calls))
  /-- A paint of the top state is resolved, and what follows depends on the ink. -/
  | withInk (slot : PaintSlot) {draw : Ink S → Pass σ S → Pass σ S}
      (drawn : ∀ ink, Action stage (draw ink)) : Action stage (stage.withInk slot draw)
  | andThen {first second : Pass σ S → Pass σ S} (before : Action stage first)
      (after : Action stage second) : Action stage fun pass => second (first pass)
  /-- What to do depends on the state, whatever surface and cache are. -/
  | choose {change : Pass σ S → Pass σ S} (choice : Pass σ S → Pass σ S → Pass σ S)
      (chosen : ∀ pass, Action stage (choice pass))
      (same : ∀ pass surface shaders,
        change (pass.onto surface shaders) = choice pass (pass.onto surface shaders)) :
      Action stage change

/-- The warning that a paint which cannot be resolved gives. -/
def ResolveError.warning : ResolveError → ReplayWarning
  | .missingAsset kind id => .missingAsset kind id
  | .unsupported => .unsupportedPaint

/-- What comes of resolving a paint of the top state. -/
def Stage.resolution (stage : Stage σ S) (slot : PaintSlot) (pass : Pass σ S) :
    ShaderCache.Resolution σ S :=
  pass.shaders.resolve stage.canvas.buildShader stage.assets (pass.stack.top.paint slot)
    pass.surface

/-- The pass that goes on with the surface and the cache that a resolution leaves. -/
def Stage.resolved (stage : Stage σ S) (slot : PaintSlot) (pass : Pass σ S) : Pass σ S :=
  pass.onto (stage.resolution slot pass).2.2 (stage.resolution slot pass).2.1

theorem Stage.withInk_eq (stage : Stage σ S) (slot : PaintSlot)
    (draw : Ink S → Pass σ S → Pass σ S) (pass : Pass σ S) :
    stage.withInk slot draw pass =
      match (stage.resolution slot pass).1 with
      | .ok ink => draw ink (stage.resolved slot pass)
      | .error error => (stage.resolved slot pass).warn error.warning := by
  unfold withInk resolved resolution
  rcases pass.shaders.resolve stage.canvas.buildShader stage.assets (pass.stack.top.paint slot)
    pass.surface with ⟨error | ink, shaders, surface⟩
  · cases error <;> rfl
  · rfl

/-- Instructions that neither draw nor refer to a script count no draw. -/
theorem Stage.draws_perform (stage : Stage σ S)
    (descend : Option (Script → Pass σ S → Pass σ S)) (script : String)
    {instruction : Instruction} (visible : instruction.isVisible = false) (pass : Pass σ S) :
    (stage.perform descend script instruction pass).report.draws = pass.report.draws := by
  have pops : ∀ stack : Option StateStack,
      (pass.setStack script stack).report.draws = pass.report.draws := by
    intro stack
    cases stack <;> rfl
  cases instruction with
  | popState => exact pops _
  | popPushState => exact pops _
  | clipPath mode =>
      simp only [perform, Pass.addClip, Pass.editTop]
      split <;> rfl
  | draw => cases visible
  | drawText => cases visible
  | drawSprites => cases visible
  | drawScript => cases visible
  | fillPath => cases visible
  | strokePath => cases visible
  | _ => rfl

namespace Stage

variable (stage : Stage σ S)

theorem action_warn (warning : ReplayWarning) :
    stage.Action fun pass => pass.warn warning :=
  .quiet (Pass.quiet_warn warning) fun _ => rfl

theorem action_id : stage.Action id := .quiet (fun _ _ _ => rfl) fun _ => rfl

/-- A draw that goes where the state says. -/
theorem action_draw (call : Pass σ S → CanvasCall S)
    (blind : ∀ pass surface shaders, call (pass.onto surface shaders) = call pass)
    (drawn : ∀ pass, (call pass).isDraw = true) :
    stage.Action fun pass => pass.drawing 1 (stage.canvas.draw (call pass)) := by
  refine .choose
    (fun pass => Pass.drawing [call pass].length (stage.canvas.draws [call pass]))
    (fun pass => .draws (List.forall_mem_singleton.2 (drawn pass))) ?_
  intro pass surface shaders
  rw [blind]
  rfl

theorem action_fill (outline : Outline) : stage.Action (stage.fill outline) :=
  .withInk .fill fun ink => stage.action_draw
    (fun pass => .fill outline ink pass.stack.top.placement) (fun _ _ _ => rfl) fun _ => rfl

theorem action_stroke (outline : Outline) : stage.Action (stage.stroke outline) :=
  .withInk .stroke fun ink => stage.action_draw
    (fun pass => .stroke outline ink pass.stack.top.strokeStyle pass.stack.top.placement)
    (fun _ _ _ => rfl) fun _ => rfl

theorem action_drawText (text : String) : stage.Action (stage.drawText text) :=
  .withInk .fill fun ink => stage.action_draw
    (fun pass => .text ⟨text, pass.stack.top.textStyle,
      stage.assets.font? pass.stack.top.textStyle.font⟩ ink pass.stack.top.placement)
    (fun _ _ _ => rfl) fun _ => rfl

theorem action_drawShape (shape : Shape) (flags : DrawFlags) :
    stage.Action (stage.drawShape shape flags) := by
  cases shaped : shape.outline? with
  | none =>
      have same : stage.drawShape shape flags = id := by
        funext pass
        simp only [drawShape, shaped, id]
      exact same ▸ stage.action_id
  | some outline =>
      have filled : stage.Action fun pass =>
          if flags.fills && shape.hasInterior then stage.fill outline pass else pass := by
        split
        · exact stage.action_fill outline
        · exact stage.action_id
      have stroked : stage.Action fun pass =>
          if flags.strokes then stage.stroke outline pass else pass := by
        split
        · exact stage.action_stroke outline
        · exact stage.action_id
      have same : stage.drawShape shape flags = fun pass =>
          (fun pass => if flags.strokes then stage.stroke outline pass else pass)
            (if flags.fills && shape.hasInterior then stage.fill outline pass else pass) := by
        funext pass
        simp only [drawShape, shaped]
      exact same ▸ .andThen filled stroked

theorem action_drawSprites (image : String) (sprites : List Sprite) :
    stage.Action (stage.drawSprites image sprites) := by
  unfold drawSprites
  cases stage.assets.texture? image with
  | none => exact stage.action_warn _
  | some texture =>
      let calls (pass : Pass σ S) : List (CanvasCall S) :=
        sprites.map fun sprite => .sprite texture.picture sprite pass.stack.top.placement
      refine .choose
        (fun pass => Pass.drawing (calls pass).length (stage.canvas.draws (calls pass)))
        (fun pass => .draws ?_) ?_
      · intro call member
        obtain ⟨sprite, -, rfl⟩ := List.mem_map.1 member
        rfl
      · intro pass surface shaders
        simp only [calls, List.length_map, Canvas.draws_sprites]
        rfl

theorem action_withPath (script : String) {draw : Outline → Pass σ S → Pass σ S}
    (drawn : ∀ outline, stage.Action (draw outline)) :
    stage.Action (withPath script draw) := by
  refine .choose (fun state => state.pen.outline?.elim
    (fun pass => pass.warn (.emptyPath script)) draw) (fun state => ?_) ?_
  · cases state.pen.outline? with
    | none => exact stage.action_warn _
    | some outline => exact drawn outline
  · intro pass surface shaders
    unfold withPath
    dsimp only [Pass.onto]
    cases pass.pen.outline? <;> rfl

section Descend

variable {descend : Option (Script → Pass σ S → Pass σ S)}
  (followed : ∀ walk ∈ descend, ∀ script, stage.Action (walk script))

include followed

theorem action_drawScript (caller target : String) :
    stage.Action (stage.drawScript descend caller target) := by
  have unlessActive : ∀ other : Pass σ S → Pass σ S → Pass σ S,
      (∀ pass surface shaders, other (pass.onto surface shaders) = other pass) →
        (∀ pass, stage.Action (other pass)) →
          stage.Action fun pass =>
            if target ∈ pass.active then pass.warn (.cycleDetected (pass.active ++ [target]))
            else other pass pass := by
    intro other blind chosen
    refine .choose (fun state pass => if target ∈ state.active
      then pass.warn (.cycleDetected (state.active ++ [target])) else other state pass)
      (fun state => ?_) fun pass surface shaders => by rw [blind]; rfl
    split
    · exact stage.action_warn _
    · exact chosen state
  unfold drawScript
  cases descend with
  | none =>
      exact unlessActive (fun state pass =>
        pass.warn (.depthExceeded target state.active.length)) (fun _ _ _ => rfl)
        fun _ => stage.action_warn _
  | some walk =>
      cases stage.scripts.find? target with
      | none =>
          exact unlessActive (fun _ pass =>
            pass.warn (.danglingReference caller target)) (fun _ _ _ => rfl)
            fun _ => stage.action_warn _
      | some script =>
          refine unlessActive (fun state pass =>
            let after := walk script { pass with stack := state.stack.enter.2, pen := {} }
            { after with pen := state.pen, stack := after.stack.exit state.stack.enter.1 })
            (fun _ _ _ => rfl) fun state => ?_
          have entering : stage.Action fun pass =>
              { pass with stack := state.stack.enter.2, pen := {} } :=
            .quiet (fun _ _ _ => rfl) fun _ => rfl
          have leaving : stage.Action fun pass =>
              { pass with pen := state.pen, stack := pass.stack.exit state.stack.enter.1 } :=
            .quiet (fun _ _ _ => rfl) fun _ => rfl
          exact (entering.andThen (followed walk rfl script)).andThen leaving

theorem action_perform (script : String) (instruction : Instruction) :
    stage.Action (stage.perform descend script instruction) := by
  cases visible : instruction.isVisible with
  | false =>
      exact .quiet (stage.quiet_perform descend script visible)
        (stage.draws_perform descend script visible)
  | true =>
      cases instruction with
      | draw shape flags => exact stage.action_drawShape shape flags
      | drawText text => exact stage.action_drawText text
      | drawSprites image sprites => exact stage.action_drawSprites image sprites
      | drawScript target => exact stage.action_drawScript followed script target
      | fillPath => exact stage.action_withPath script stage.action_fill
      | strokePath => exact stage.action_withPath script stage.action_stroke
      | _ => cases visible

theorem action_foldl (script : String) (instructions : List Instruction) :
    stage.Action fun pass => instructions.foldl (fun pass instruction =>
      stage.perform descend script instruction pass) pass := by
  induction instructions with
  | nil => exact stage.action_id
  | cons first rest ih => exact (stage.action_perform followed script first).andThen ih

theorem action_walkWith (script : Script) : stage.Action (stage.walkWith descend script) := by
  have entering : stage.Action fun pass => pass.entering script.id :=
    .quiet (Pass.quiet_entering script.id) fun _ => rfl
  have leaving : stage.Action fun pass => pass.leaving := .quiet Pass.quiet_leaving fun _ => rfl
  exact (entering.andThen (stage.action_foldl followed script.id script.instructions)).andThen
    leaving

end Descend

/-- A walk is an action, however deep it goes. -/
theorem action_walk (levels : Nat) (script : Script) : stage.Action (stage.walk levels script) := by
  induction levels generalizing script with
  | zero => exact stage.action_walkWith (by rintro _ ⟨⟩) script
  | succ levels ih =>
      refine stage.action_walkWith ?_ script
      rintro walk ⟨⟩
      exact ih

end Stage

end ScenePlayer
