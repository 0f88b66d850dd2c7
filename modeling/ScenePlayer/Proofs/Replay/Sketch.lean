import ScenePlayer.Proofs.Replay.Issue

/-!
What an instruction draws. Whether a paint can be had is settled when a frame begins: it
can if its shader is in the cache, or if the surface accepts its source, and nothing that
is resolved in between changes that (`ShaderCache.palette_resolve`). So what an instruction
draws is decided by the palette, the top state and the path (`Palette.sketch`), and passes
that agree on these, as `Pass.Kin` says, go on to agree after every instruction that refers
to no script, and draw the same (`Pass.Kin.perform`).
-/

namespace ScenePlayer

variable {σ S : Type}

/-! ### Palettes -/

/-- The assets to paint with, and the paints that can be had. -/
structure Palette where
  assets : AssetStore
  offers : Paint → Bool

namespace ShaderCache

/-- A shader can be had if it is held, or if its source is accepted. -/
def palette (accepts : ShaderSource → Bool) (assets : AssetStore) (cache : ShaderCache S) :
    Palette where
  assets
  offers paint := (cache.held assets paint).isSome || (assets.source? paint).any accepts

theorem assets_palette (accepts : ShaderSource → Bool) (assets : AssetStore)
    (cache : ShaderCache S) : (cache.palette accepts assets).assets = assets := rfl

theorem offers_palette (accepts : ShaderSource → Bool) (assets : AssetStore)
    (cache : ShaderCache S) (paint : Paint) :
    (cache.palette accepts assets).offers paint =
      ((cache.held assets paint).isSome || (assets.source? paint).any accepts) := rfl

section Answers

variable {accepts : ShaderSource → Bool} {build : Builder σ S} {surface : σ}
  (answers : ∀ source, (build source surface).1.isSome = accepts source)

include answers

theorem isSome_supply (assets : AssetStore) (paint : Paint) (cache : ShaderCache S) :
    (cache.supply build assets paint surface).1.isSome =
      (cache.palette accepts assets).offers paint := by
  rw [offers_palette, supply, request]
  cases cache.held assets paint with
  | some use => simp
  | none =>
      cases assets.source? paint with
      | none => simp
      | some source => simpa using answers source

/-- A resolution does not change what can be had. -/
theorem palette_resolve (assets : AssetStore) (paint : Paint) (cache : ShaderCache S) :
    (cache.resolve build assets paint surface).2.1.palette accepts assets =
      cache.palette accepts assets := by
  have supplied := supplied_resolve build assets paint cache surface
  have offered : ∀ other,
      ((cache.resolve build assets paint surface).2.1.palette accepts assets).offers other =
        (cache.palette accepts assets).offers other := by
    intro other
    by_cases here : other = paint
    · subst here
      rw [offers_palette, supplied.here, Option.isSome_map, isSome_supply answers assets other,
        offers_palette, Bool.or_assoc, Bool.or_self]
    · rw [offers_palette, offers_palette, supplied.elsewhere other here]
  exact congrArg (Palette.mk assets) (funext offered)

end Answers

end ShaderCache

namespace Palette

variable (palette : Palette)

/-- The ink for a paint, told by its source. -/
def ink? : Paint → Option (Ink (Option ShaderSource))
  | .colour colour => some (.solid colour)
  | paint => if palette.offers paint then some (.shader (palette.assets.source? paint)) else none

def fill (outline : Outline) (state : DrawState) : List (CanvasCall (Option ShaderSource)) :=
  (palette.ink? state.fill).toList.map fun ink => .fill outline ink state.placement

def stroke (outline : Outline) (state : DrawState) : List (CanvasCall (Option ShaderSource)) :=
  (palette.ink? state.stroke).toList.map fun ink =>
    .stroke outline ink state.strokeStyle state.placement

def text (text : String) (state : DrawState) : List (CanvasCall (Option ShaderSource)) :=
  (palette.ink? state.fill).toList.map fun ink =>
    .text ⟨text, state.textStyle, palette.assets.font? state.textStyle.font⟩ ink state.placement

def shape (shape : Shape) (flags : DrawFlags) (state : DrawState) :
    List (CanvasCall (Option ShaderSource)) :=
  match shape.outline? with
  | none => []
  | some outline =>
      (if flags.fills && shape.hasInterior then palette.fill outline state else []) ++
        (if flags.strokes then palette.stroke outline state else [])

def sprites (image : String) (sprites : List Sprite) (state : DrawState) :
    List (CanvasCall (Option ShaderSource)) :=
  match palette.assets.texture? image with
  | none => []
  | some texture => sprites.map fun sprite => .sprite texture.picture sprite state.placement

/-- What an instruction that refers to no script draws in a state and with a path. -/
def sketch (instruction : Instruction) (state : DrawState) (pen : Pen) :
    List (CanvasCall (Option ShaderSource)) :=
  match instruction with
  | .draw shape flags => palette.shape shape flags state
  | .drawText text => palette.text text state
  | .drawSprites image sprites => palette.sprites image sprites state
  | .fillPath => pen.outline?.elim [] fun outline => palette.fill outline state
  | .strokePath => pen.outline?.elim [] fun outline => palette.stroke outline state
  | _ => []

/-- The ink that a resolution answers by is the one in the palette. -/
theorem ink?_eq {paint : Paint} {shader? : Option S}
    (offered : shader?.isSome = palette.offers paint) :
    (palette.assets.ink paint shader?).toOption.map
      (Ink.plain (palette.assets.source? paint)) = palette.ink? paint := by
  cases paint <;> cases shader? <;> simp_all [ink?, AssetStore.ink, Ink.plain, Except.toOption]

end Palette

/-! ### What is drawn -/

/-- What happens to a pass when something is drawn in its state: the draws are written
down, and the state, the path, the active scripts and the palette stay. -/
structure Pass.Drew (accepts : ShaderSource → Bool) (assets : AssetStore) (Fits : σ → Prop)
    (before : Pass (σ × Trace S) S) (drawn : List (CanvasCall (Option ShaderSource)))
    (after : Pass (σ × Trace S) S) : Prop where
  trace : ∃ calls : List (CanvasCall S),
    after.surface.2 = before.surface.2 ++ calls.map CanvasCall.succeeded ∧
    (calls.filter CanvasCall.isDraw).map (CanvasCall.plain assets before.stack.top) = drawn
  stack : after.stack = before.stack
  pen : after.pen = before.pen
  active : after.active = before.active
  palette : after.shaders.palette accepts assets = before.shaders.palette accepts assets
  fits : Fits after.surface.1

namespace Pass.Drew

variable {accepts : ShaderSource → Bool} {assets : AssetStore} {Fits : σ → Prop}
  {first second third : Pass (σ × Trace S) S} {drawn more : List (CanvasCall (Option ShaderSource))}

theorem refl (fits : Fits first.surface.1) : Drew accepts assets Fits first [] first where
  trace := ⟨[], (List.append_nil _).symm, rfl⟩
  stack := rfl
  pen := rfl
  active := rfl
  palette := rfl
  fits := fits

theorem trans (left : Drew accepts assets Fits first drawn second)
    (right : Drew accepts assets Fits second more third) :
    Drew accepts assets Fits first (drawn ++ more) third where
  trace := by
    obtain ⟨calls, leftTrace, rfl⟩ := left.trace
    obtain ⟨others, rightTrace, rfl⟩ := right.trace
    refine ⟨calls ++ others, ?_, ?_⟩
    · rw [rightTrace, leftTrace, List.map_append, List.append_assoc]
    · rw [List.filter_append, List.map_append, left.stack]
  stack := right.stack.trans left.stack
  pen := right.pen.trans left.pen
  active := right.active.trans left.active
  palette := right.palette.trans left.palette
  fits := right.fits

/-- A warning is no draw. -/
theorem warn (warning : ReplayWarning) (drew : Drew accepts assets Fits first drawn second) :
    Drew accepts assets Fits first drawn (second.warn warning) :=
  ⟨drew.trace, drew.stack, drew.pen, drew.active, drew.palette, drew.fits⟩

end Pass.Drew

namespace Stage

variable {accepts : ShaderSource → Bool} {Fits : σ → Prop} {stage : Stage σ S}
  (steady : stage.canvas.Steady accepts Fits)

include steady

theorem drew_draws {calls : List (CanvasCall S)} (drawn : ∀ call ∈ calls, call.isDraw = true)
    {pass : Pass (σ × Trace S) S} (fits : Fits pass.surface.1) :
    pass.Drew accepts stage.assets Fits
      (calls.map (CanvasCall.plain stage.assets pass.stack.top))
      (pass.drawing calls.length (stage.tracing.canvas.draws calls)) := by
  have traced := stage.canvas.draws_tracing drawn pass.surface
  constructor
  · refine ⟨calls, congrArg Prod.snd traced, ?_⟩
    rw [List.filter_eq_self.2 drawn]
  · rfl
  · rfl
  · rfl
  · rfl
  · exact (congrArg Prod.fst traced).symm ▸ steady.draws fits

/-- Resolving a paint draws nothing. -/
theorem drew_resolved (slot : PaintSlot) {pass : Pass (σ × Trace S) S}
    (fits : Fits pass.surface.1) :
    pass.Drew accepts stage.assets Fits [] (stage.tracing.resolved slot pass) := by
  obtain ⟨calls, tally⟩ := tally_resolved stage slot pass
  have undrawn : calls.countP CanvasCall.isDraw = 0 := by
    have counted := tally.draws
    simp only [resolved, Pass.onto] at counted
    omega
  constructor
  · refine ⟨calls, tally.trace, ?_⟩
    rw [List.countP_eq_length_filter, List.length_eq_zero_iff] at undrawn
    rw [undrawn, List.map_nil]
  · rfl
  · rfl
  · rfl
  · exact ShaderCache.palette_resolve (steady.answers_tracing fits) stage.assets _ pass.shaders
  · exact fits_resolved steady slot fits

/-- What is drawn with the ink of a paint is drawn if the palette has that ink. -/
theorem drew_withInk (slot : PaintSlot) {draw : Ink S → Pass (σ × Trace S) S → Pass (σ × Trace S) S}
    {pass : Pass (σ × Trace S) S} (fits : Fits pass.surface.1)
    {sketch : Ink (Option ShaderSource) → CanvasCall (Option ShaderSource)}
    (drawn : ∀ ink, ∀ resolved : Pass (σ × Trace S) S, resolved.stack = pass.stack →
      Fits resolved.surface.1 → resolved.Drew accepts stage.assets Fits
        [sketch (ink.plain (stage.assets.source? (pass.stack.top.paint slot)))]
        (draw ink resolved)) :
    pass.Drew accepts stage.assets Fits
      (((pass.shaders.palette accepts stage.assets).ink?
        (pass.stack.top.paint slot)).toList.map sketch)
      (stage.tracing.withInk slot draw pass) := by
  have resolved := drew_resolved steady slot fits
  have offered := ShaderCache.isSome_supply (steady.answers_tracing fits) stage.assets
    (pass.stack.top.paint slot) pass.shaders
  have supplied := ShaderCache.supplied_resolve stage.canvas.tracing.buildShader stage.assets
    (pass.stack.top.paint slot) pass.shaders pass.surface
  have answer : (stage.tracing.resolution slot pass).1 = _ := supplied.answer
  have ink := Palette.ink?_eq _ offered
  rw [ShaderCache.assets_palette] at ink
  rw [withInk_eq, answer, ← ink]
  generalize stage.assets.ink _ _ = outcome
  cases outcome with
  | ok ink => exact resolved.trans (drawn ink _ resolved.stack resolved.fits)
  | error error => exact resolved.warn error.warning

/-- A draw with the ink of a paint. -/
theorem drew_inked (slot : PaintSlot) {pass : Pass (σ × Trace S) S} (fits : Fits pass.surface.1)
    (call : Ink S → DrawState → CanvasCall S)
    (sketch : Ink (Option ShaderSource) → CanvasCall (Option ShaderSource))
    (drawn : ∀ ink state, (call ink state).isDraw = true)
    (sketched : ∀ ink, (call ink pass.stack.top).plain stage.assets pass.stack.top =
      sketch (ink.plain (stage.assets.source? (pass.stack.top.paint slot)))) :
    pass.Drew accepts stage.assets Fits
      (((pass.shaders.palette accepts stage.assets).ink?
        (pass.stack.top.paint slot)).toList.map sketch)
      (stage.tracing.withInk slot (fun ink pass =>
        pass.drawing 1 (stage.tracing.canvas.draw (call ink pass.stack.top))) pass) := by
  refine drew_withInk steady slot fits ?_
  intro ink resolved same fits
  have drew := drew_draws steady (List.forall_mem_singleton.2 (drawn ink resolved.stack.top)) fits
  rw [List.map_singleton, same, sketched ink] at drew
  rw [same]
  exact drew

theorem drew_fill (outline : Outline) {pass : Pass (σ × Trace S) S}
    (fits : Fits pass.surface.1) :
    pass.Drew accepts stage.assets Fits
      ((pass.shaders.palette accepts stage.assets).fill outline pass.stack.top.unnumbered)
      (stage.tracing.fill outline pass) :=
  drew_inked steady .fill fits (fun ink state => .fill outline ink state.placement)
    (fun ink => .fill outline ink pass.stack.top.unnumbered.placement) (fun _ _ => rfl)
    fun _ => rfl

theorem drew_stroke (outline : Outline) {pass : Pass (σ × Trace S) S}
    (fits : Fits pass.surface.1) :
    pass.Drew accepts stage.assets Fits
      ((pass.shaders.palette accepts stage.assets).stroke outline pass.stack.top.unnumbered)
      (stage.tracing.stroke outline pass) :=
  drew_inked steady .stroke fits
    (fun ink state => .stroke outline ink state.strokeStyle state.placement)
    (fun ink => .stroke outline ink pass.stack.top.strokeStyle
      pass.stack.top.unnumbered.placement) (fun _ _ => rfl) fun _ => rfl

theorem drew_text (text : String) {pass : Pass (σ × Trace S) S} (fits : Fits pass.surface.1) :
    pass.Drew accepts stage.assets Fits
      ((pass.shaders.palette accepts stage.assets).text text pass.stack.top.unnumbered)
      (stage.tracing.drawText text pass) := by
  let run (style : TextStyle) : TextRun := ⟨text, style, stage.assets.font? style.font⟩
  exact drew_inked steady .fill fits
    (fun ink state => .text (run state.textStyle) ink state.placement)
    (fun ink => .text (run pass.stack.top.textStyle) ink pass.stack.top.unnumbered.placement)
    (fun _ _ => rfl) fun _ => rfl

theorem drew_shape (shape : Shape) (flags : DrawFlags) {pass : Pass (σ × Trace S) S}
    (fits : Fits pass.surface.1) :
    pass.Drew accepts stage.assets Fits
      ((pass.shaders.palette accepts stage.assets).shape shape flags pass.stack.top.unnumbered)
      (stage.tracing.drawShape shape flags pass) := by
  unfold drawShape Palette.shape
  cases shape.outline? with
  | none => exact .refl fits
  | some outline =>
      have filled : pass.Drew accepts stage.assets Fits
          (if flags.fills && shape.hasInterior then
            (pass.shaders.palette accepts stage.assets).fill outline pass.stack.top.unnumbered
          else [])
          (if flags.fills && shape.hasInterior then stage.tracing.fill outline pass else pass) := by
        split
        · exact drew_fill steady outline fits
        · exact .refl fits
      refine filled.trans ?_
      by_cases strokes : flags.strokes = true
      · have stroked := drew_stroke steady outline filled.fits
        rw [filled.palette, filled.stack] at stroked
        simpa only [strokes, if_true] using stroked
      · simpa only [strokes, Bool.false_eq_true, if_false] using Pass.Drew.refl filled.fits

theorem drew_sprites (image : String) (sprites : List Sprite) {pass : Pass (σ × Trace S) S}
    (fits : Fits pass.surface.1) :
    pass.Drew accepts stage.assets Fits
      ((pass.shaders.palette accepts stage.assets).sprites image sprites
        pass.stack.top.unnumbered)
      (stage.tracing.drawSprites image sprites pass) := by
  have same : stage.tracing.assets = stage.assets := rfl
  rw [drawSprites, Palette.sprites, ShaderCache.assets_palette, same]
  cases stage.assets.texture? image with
  | none => exact (Pass.Drew.refl fits).warn _
  | some texture =>
      let calls : List (CanvasCall S) :=
        sprites.map fun sprite => .sprite texture.picture sprite pass.stack.top.placement
      have drawn : ∀ call ∈ calls, call.isDraw = true := by
        intro call member
        obtain ⟨sprite, -, rfl⟩ := List.mem_map.1 member
        rfl
      have drew := drew_draws steady drawn fits
      simp only [calls, List.length_map, List.map_map, Canvas.draws_sprites] at drew
      exact drew

/-- An instruction that draws draws what its sketch says. -/
theorem drew_perform (script : String) {instruction : Instruction}
    (plain : instruction.reference? = none) (visible : instruction.isVisible = true)
    {pass : Pass (σ × Trace S) S} (fits : Fits pass.surface.1) :
    pass.Drew accepts stage.assets Fits
      ((pass.shaders.palette accepts stage.assets).sketch instruction
        pass.stack.top.unnumbered pass.pen)
      (stage.tracing.perform none script instruction pass) := by
  have withPath : ∀ {draw : Outline → Pass (σ × Trace S) S → Pass (σ × Trace S) S}
      {sketch : Outline → List (CanvasCall (Option ShaderSource))},
      (∀ outline, pass.Drew accepts stage.assets Fits (sketch outline) (draw outline pass)) →
        pass.Drew accepts stage.assets Fits (pass.pen.outline?.elim [] sketch)
          (withPath script draw pass) := by
    intro draw sketch drawn
    unfold Stage.withPath
    cases pass.pen.outline? with
    | none => exact (Pass.Drew.refl fits).warn _
    | some outline => exact drawn outline
  cases instruction with
  | draw shape flags => exact drew_shape steady shape flags fits
  | drawText text => exact drew_text steady text fits
  | drawSprites image sprites => exact drew_sprites steady image sprites fits
  | fillPath => exact withPath fun outline => drew_fill steady outline fits
  | strokePath => exact withPath fun outline => drew_stroke steady outline fits
  | drawScript target => cases plain
  | _ => cases visible

/-- However much is drawn, the palette stays. -/
theorem Action.palette {change : Pass (σ × Trace S) S → Pass (σ × Trace S) S}
    (action : stage.tracing.Action change) {pass : Pass (σ × Trace S) S}
    (fits : Fits pass.surface.1) :
    (change pass).shaders.palette accepts stage.assets =
      pass.shaders.palette accepts stage.assets := by
  induction action generalizing pass with
  | quiet quiet uncounted => rw [quiet.shaders]
  | draws drawn => rfl
  | withInk slot drawn ih =>
      have resolved := drew_resolved steady slot fits
      rw [withInk_eq]
      split
      · rename_i ink _
        exact (ih ink resolved.fits).trans resolved.palette
      · exact resolved.palette
  | andThen before after first second =>
      exact (second (before.keeps steady fits).1).trans (first fits)
  | choose choice chosen same ih =>
      have same := same pass pass.surface pass.shaders
      exact same ▸ ih pass fits

end Stage

/-- What is drawn is issued in the state of the pass. -/
theorem Pass.Drew.issues {accepts : ShaderSource → Bool} {assets : AssetStore} {Fits : σ → Prop}
    {before after : Pass (σ × Trace S) S} {drawn : List (CanvasCall (Option ShaderSource))}
    (drew : before.Drew accepts assets Fits drawn after) :
    (before.issues after).map (Issue.plain assets) = drawn.map fun call =>
      ⟨before.active.length, before.stack.top.unnumbered, call⟩ := by
  obtain ⟨calls, trace, rfl⟩ := drew.trace
  rw [Pass.issues_of_trace trace, List.map_map, List.map_map]
  rfl

/-! ### Passes that agree -/

/-- Two passes agree on all that decides what is drawn from now on: the states apart from
clip identifiers, the path, the active scripts and the palette. -/
structure Pass.Kin (accepts : ShaderSource → Bool) (assets : AssetStore) (Fits : σ → Prop)
    (pass other : Pass (σ × Trace S) S) : Prop where
  stack : other.stack.unnumbered = pass.stack.unnumbered
  pen : other.pen = pass.pen
  active : other.active = pass.active
  palette : other.shaders.palette accepts assets = pass.shaders.palette accepts assets
  fits : Fits pass.surface.1
  otherFits : Fits other.surface.1

namespace Pass.Kin

variable {accepts : ShaderSource → Bool} {assets : AssetStore} {Fits : σ → Prop}
  {pass other : Pass (σ × Trace S) S}

theorem refl (fits : Fits pass.surface.1) : Kin accepts assets Fits pass pass :=
  ⟨rfl, rfl, rfl, rfl, fits, fits⟩

section State

variable (kin : Kin accepts assets Fits pass other)

include kin

theorem warn (warning otherWarning : ReplayWarning) :
    Kin accepts assets Fits (pass.warn warning) (other.warn otherWarning) :=
  ⟨kin.stack, kin.pen, kin.active, kin.palette, kin.fits, kin.otherFits⟩

theorem editTop {edit : DrawState → DrawState}
    (blind : ∀ state : DrawState, (edit state).unnumbered = edit state.unnumbered) :
    Kin accepts assets Fits (pass.editTop edit) (other.editTop edit) := by
  have edited : ∀ stack : StateStack,
      (stack.editTop edit).unnumbered = stack.unnumbered.editTop edit := by
    intro stack
    simp only [StateStack.editTop, StateStack.unnumbered, blind]
  refine ⟨?_, kin.pen, kin.active, kin.palette, kin.fits, kin.otherFits⟩
  simp only [Pass.editTop, edited, kin.stack]

theorem editPen (edit : Pen → Pen) :
    Kin accepts assets Fits (pass.editPen edit) (other.editPen edit) :=
  ⟨kin.stack, congrArg edit kin.pen, kin.active, kin.palette, kin.fits, kin.otherFits⟩

theorem setStack (script : String) {change : StateStack → Option StateStack}
    (blind : ∀ stack : StateStack,
      (change stack).map StateStack.unnumbered = change stack.unnumbered) :
    Kin accepts assets Fits (pass.setStack script (change pass.stack))
      (other.setStack script (change other.stack)) := by
  have changed : (change other.stack).map StateStack.unnumbered =
      (change pass.stack).map StateStack.unnumbered := by
    rw [blind, blind, kin.stack]
  cases here : change pass.stack with
  | none =>
      rw [here, Option.map_none, Option.map_eq_none_iff] at changed
      rw [changed]
      exact kin.warn _ _
  | some stack =>
      rw [here, Option.map_some] at changed
      obtain ⟨there, found, same⟩ := Option.map_eq_some_iff.1 changed
      rw [found]
      exact ⟨same, kin.pen, kin.active, kin.palette, kin.fits, kin.otherFits⟩

theorem addClip (outline : Option Outline) (mode : ClipMode) :
    Kin accepts assets Fits (pass.addClip outline mode) (other.addClip outline mode) := by
  have clipped : ∀ (id : Nat) (stack : StateStack),
      (stack.editTop (DrawState.addClip id outline mode)).unnumbered =
        stack.unnumbered.editTop (DrawState.addClip 0 outline mode) := by
    intro id stack
    simp only [StateStack.editTop, StateStack.unnumbered, DrawState.unnumbered_addClip]
  refine ⟨?_, kin.pen, kin.active, kin.palette, kin.fits, kin.otherFits⟩
  simp only [Pass.addClip, Pass.editTop, clipped, kin.stack]

/-- Instructions that draw nothing and refer to no script keep the agreement. -/
theorem perform_of_invisible (stage : Stage (σ × Trace S) S) (script : String)
    {instruction : Instruction} (visible : instruction.isVisible = false) :
    Kin accepts assets Fits (stage.perform none script instruction pass)
      (stage.perform none script instruction other) := by
  cases instruction with
  | pushState =>
      refine ⟨?_, kin.pen, kin.active, kin.palette, kin.fits, kin.otherFits⟩
      simp only [Stage.perform, StateStack.unnumbered_push, kin.stack]
  | popState => exact kin.setStack script StateStack.unnumbered_pop?
  | popPushState => exact kin.setStack script StateStack.unnumbered_popPush?
  | paint slot source => exact kin.editTop (DrawState.unnumbered_setPaint slot source)
  | scissor width height => exact kin.addClip _ _
  | clipPath mode =>
      simp only [Stage.perform, kin.pen]
      split
      · exact (kin.warn _ _).addClip _ _
      · exact kin.addClip _ _
  | beginPath => exact ⟨kin.stack, rfl, kin.active, kin.palette, kin.fits, kin.otherFits⟩
  | closePath => exact kin.editPen _
  | moveTo => exact kin.editPen _
  | lineTo => exact kin.editPen _
  | arcTo => exact kin.editPen _
  | bezierTo => exact kin.editPen _
  | quadraticTo => exact kin.editPen _
  | addShape => exact kin.editPen _
  | pathArc => exact kin.editPen _
  | draw => cases visible
  | drawText => cases visible
  | drawSprites => cases visible
  | drawScript => cases visible
  | fillPath => cases visible
  | strokePath => cases visible
  | _ => exact kin.editTop fun _ => rfl

end State

/-- **Passes that agree draw the same.** An instruction that refers to no script leaves them
in agreement, and it issues the same from both, apart from shaders and clip identifiers. -/
theorem perform {stage : Stage σ S} (steady : stage.canvas.Steady accepts Fits)
    (kin : Kin accepts stage.assets Fits pass other) (script : String)
    {instruction : Instruction} (plain : instruction.reference? = none) :
    Kin accepts stage.assets Fits (stage.tracing.perform none script instruction pass)
        (stage.tracing.perform none script instruction other) ∧
      (pass.issues (stage.tracing.perform none script instruction pass)).map
          (Issue.plain stage.assets) =
        (other.issues (stage.tracing.perform none script instruction other)).map
          (Issue.plain stage.assets) := by
  cases visible : instruction.isVisible with
  | false =>
      have quiet := stage.tracing.quiet_perform none script visible
      refine ⟨kin.perform_of_invisible stage.tracing script visible, ?_⟩
      rw [Pass.issues_of_same (quiet.surface pass), Pass.issues_of_same (quiet.surface other)]
  | true =>
      have drew := Stage.drew_perform steady script plain visible kin.fits
      have otherDrew := Stage.drew_perform steady script plain visible kin.otherFits
      have top : other.stack.top.unnumbered = pass.stack.top.unnumbered :=
        congrArg StateStack.top kin.stack
      constructor
      · constructor
        · rw [drew.stack, otherDrew.stack, kin.stack]
        · rw [drew.pen, otherDrew.pen, kin.pen]
        · rw [drew.active, otherDrew.active, kin.active]
        · rw [drew.palette, otherDrew.palette, kin.palette]
        · exact drew.fits
        · exact otherDrew.fits
      · rw [drew.issues, otherDrew.issues, kin.palette, kin.pen, kin.active, top]

end Pass.Kin

end ScenePlayer
