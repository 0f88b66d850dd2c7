import ScenePlayer.Proofs.Canvas.Repeats
import ScenePlayer.Proofs.Paint.Coherence
import ScenePlayer.Proofs.Replay.Quiet
import ScenePlayer.Proofs.Script.Edits

/-!
Passes on different surfaces, of a canvas that repeats its frames. Two passes over the
same scripts and assets may differ in their shader caches, as long as both are coherent,
and in what surfaces keep across frames. Scripts that draw no text take them to the same
states and reports, and to surfaces that agree (`Pass.Agrees.walk`). So a frame tells
nothing of the frames before: with any coherent cache and on any surface of one size it
shows the same (`Stage.replay_agrees`).
-/

namespace ScenePlayer

variable {σ S : Type} {builds : ShaderSource → Option S} {size : σ → Nat × Nat}
  {Agree : Nat × Nat → σ → σ → Prop}

/-! ### Agreement -/

namespace Canvas

/-- The answer to a request for a shader. -/
def Answers (builds : ShaderSource → Option S) (source : ShaderSource) (answer : Option S) :
    Prop :=
  builds source = answer

variable {canvas : Canvas σ S} (repeats : canvas.Repeats builds size Agree)

include repeats

theorem Repeats.records :
    ShaderCache.Records canvas.buildShader fun _ source answer => Answers builds source answer where
  noted source surface := (congrArg Prod.fst (repeats.buildShader source surface)).symm
  kept _ _ _ _ built := built

/-- Coherent caches resolve a paint to the same ink, and leave the surface alone. -/
theorem Repeats.resolves_alike {assets : AssetStore} {shaders others : ShaderCache S}
    (coherent : shaders.Coherent (Answers builds) assets)
    (caches : others.Coherent (Answers builds) assets) (paint : Paint) (surface other : σ) :
    ∃ answer after otherAfter,
      shaders.resolve canvas.buildShader assets paint surface = (answer, after, surface) ∧
        after.Coherent (Answers builds) assets ∧
        others.resolve canvas.buildShader assets paint other = (answer, otherAfter, other) ∧
        otherAfter.Coherent (Answers builds) assets := by
  have untouched : ∀ (cache : ShaderCache S) (surface : σ),
      (cache.resolve canvas.buildShader assets paint surface).2.2 = surface := by
    intro cache surface
    rcases ShaderCache.resolve_surface canvas.buildShader assets paint cache surface with
      same | ⟨source, -, same⟩
    · exact same
    · exact same.trans (congrArg Prod.snd (repeats.buildShader source surface))
  obtain ⟨leftCoherent, leftAnswers⟩ := repeats.records.resolve surface coherent paint
  obtain ⟨rightCoherent, rightAnswers⟩ := repeats.records.resolve other caches paint
  have same := leftAnswers.unique (fun source first second built also => built.symm.trans also)
    rightAnswers
  refine ⟨(shaders.resolve canvas.buildShader assets paint surface).1, _, _, ?_, leftCoherent, ?_,
    rightCoherent⟩
  · exact Prod.ext rfl (Prod.ext rfl (untouched shaders surface))
  · exact Prod.ext same.symm (Prod.ext rfl (untouched others other))

end Canvas

/-- Two passes that differ in surface and cache only. The surfaces agree, and the
caches are coherent. -/
inductive Pass.Agrees (builds : ShaderSource → Option S) (Alike : σ → σ → Prop)
    (assets : AssetStore) : Pass σ S → Pass σ S → Prop where
  | intro {pass : Pass σ S} {surface : σ} {shaders : ShaderCache S}
      (surfaces : Alike pass.surface surface)
      (coherent : pass.shaders.Coherent (Canvas.Answers builds) assets)
      (other : shaders.Coherent (Canvas.Answers builds) assets) :
      Agrees builds Alike assets pass (pass.onto surface shaders)

namespace Pass.Agrees

variable {stage : Stage σ S} {Alike : σ → σ → Prop} {assets : AssetStore}
  {pass other : Pass σ S}

theorem of_quiet {change : Pass σ S → Pass σ S} (quiet : Quiet change)
    (agrees : Agrees builds Alike assets pass other) :
    Agrees builds Alike assets (change pass) (change other) := by
  cases agrees with
  | intro surfaces coherent caches =>
      rw [quiet]
      refine .intro ?_ ?_ caches
      · rwa [quiet.surface]
      · rwa [quiet.shaders]

theorem drawing (agrees : Agrees builds Alike assets pass other) (number : Nat) {draw : σ → σ}
    (drawn : ∀ {surface second : σ}, Alike surface second → Alike (draw surface) (draw second)) :
    Agrees builds Alike assets (pass.drawing number draw) (other.drawing number draw) := by
  cases agrees with
  | intro surfaces coherent caches => exact .intro (drawn surfaces) coherent caches

theorem withPath (agrees : Agrees builds Alike assets pass other) (script : String)
    {draw : Outline → Pass σ S → Pass σ S}
    (drawn : ∀ outline, Agrees builds Alike assets (draw outline pass) (draw outline other)) :
    Agrees builds Alike assets (Stage.withPath script draw pass)
      (Stage.withPath script draw other) := by
  cases agrees with
  | intro surfaces coherent caches =>
      unfold Stage.withPath
      dsimp only [onto]
      cases pass.pen.outline? with
      | none => exact .intro surfaces coherent caches
      | some outline => exact drawn outline

/-- What follows a reference keeps the agreement. -/
def Followed (builds : ShaderSource → Option S) (Alike : σ → σ → Prop) (stage : Stage σ S)
    (descend : Option (Script → Pass σ S → Pass σ S)) : Prop :=
  ∀ walk ∈ descend, ∀ target script, stage.scripts.find? target = some script →
    ∀ pass other, Agrees builds Alike stage.assets pass other →
      Agrees builds Alike stage.assets (walk script pass) (walk script other)

theorem drawScript (agrees : Agrees builds Alike stage.assets pass other)
    {descend : Option (Script → Pass σ S → Pass σ S)}
    (followed : Followed builds Alike stage descend)
    (caller target : String) :
    Agrees builds Alike stage.assets (stage.drawScript descend caller target pass)
      (stage.drawScript descend caller target other) := by
  cases agrees with
  | @intro surface shaders surfaces coherent caches =>
      have same : Agrees builds Alike stage.assets pass (pass.onto surface shaders) :=
        .intro surfaces coherent caches
      by_cases active : target ∈ pass.active
      · simp only [Stage.drawScript, onto, active, if_true]
        exact same.of_quiet (quiet_warn _)
      · simp only [Stage.drawScript, onto, active, if_false]
        cases descend with
        | none => exact same.of_quiet (quiet_warn _)
        | some walk =>
            cases found : stage.scripts.find? target with
            | none => exact same.of_quiet (quiet_warn _)
            | some script =>
                have entered : Agrees builds Alike stage.assets
                    { pass with stack := pass.stack.enter.2, pen := {} }
                    { pass.onto surface shaders with stack := pass.stack.enter.2, pen := {} } :=
                  .intro surfaces coherent caches
                have returns : Quiet fun after : Pass σ S =>
                    { after with pen := pass.pen, stack := after.stack.exit pass.stack.enter.1 } :=
                  fun _ _ _ => rfl
                exact (followed walk rfl target script found _ _ entered).of_quiet returns

section Canvas

variable (repeats : stage.canvas.Repeats builds size Agree) {extent : Nat × Nat}

include repeats

theorem withInk (agrees : Agrees builds (Agree extent) stage.assets pass other)
    (slot : PaintSlot) {draw : Ink S → Pass σ S → Pass σ S}
    (drawn : ∀ {ink pass other}, Agrees builds (Agree extent) stage.assets pass other →
      Agrees builds (Agree extent) stage.assets (draw ink pass) (draw ink other)) :
    Agrees builds (Agree extent) stage.assets (stage.withInk slot draw pass)
      (stage.withInk slot draw other) := by
  cases agrees with
  | @intro surface shaders surfaces coherent caches =>
      obtain ⟨answer, after, otherAfter, left, leftCoherent, right, rightCoherent⟩ :=
        repeats.resolves_alike coherent caches (pass.stack.top.paint slot) pass.surface surface
      simp only [Stage.withInk, onto, left, right]
      cases answer with
      | ok ink => exact drawn (.intro surfaces leftCoherent rightCoherent)
      | error error => cases error <;> exact .intro surfaces leftCoherent rightCoherent

theorem fill (agrees : Agrees builds (Agree extent) stage.assets pass other)
    (outline : Outline) :
    Agrees builds (Agree extent) stage.assets (stage.fill outline pass)
      (stage.fill outline other) := by
  refine withInk repeats agrees .fill fun {ink pass other} agrees => ?_
  cases agrees with
  | intro surfaces coherent caches =>
      exact (Agrees.intro surfaces coherent caches).drawing 1
        fun agree => repeats.fill agree outline ink _

theorem stroke (agrees : Agrees builds (Agree extent) stage.assets pass other)
    (outline : Outline) :
    Agrees builds (Agree extent) stage.assets (stage.stroke outline pass)
      (stage.stroke outline other) := by
  refine withInk repeats agrees .stroke fun {ink pass other} agrees => ?_
  cases agrees with
  | intro surfaces coherent caches =>
      exact (Agrees.intro surfaces coherent caches).drawing 1
        fun agree => repeats.stroke agree outline ink _ _

theorem drawShape (agrees : Agrees builds (Agree extent) stage.assets pass other)
    (shape : Shape) (flags : DrawFlags) :
    Agrees builds (Agree extent) stage.assets (stage.drawShape shape flags pass)
      (stage.drawShape shape flags other) := by
  unfold Stage.drawShape
  cases shape.outline? with
  | none => exact agrees
  | some outline =>
      have filled : Agrees builds (Agree extent) stage.assets
          (if flags.fills && shape.hasInterior then stage.fill outline pass else pass)
          (if flags.fills && shape.hasInterior then stage.fill outline other else other) := by
        split
        · exact fill repeats agrees outline
        · exact agrees
      dsimp only
      split
      · exact stroke repeats filled outline
      · exact filled

theorem drawSprites (agrees : Agrees builds (Agree extent) stage.assets pass other)
    (image : String) (sprites : List Sprite) :
    Agrees builds (Agree extent) stage.assets (stage.drawSprites image sprites pass)
      (stage.drawSprites image sprites other) := by
  unfold Stage.drawSprites
  cases stage.assets.texture? image with
  | none => exact agrees.of_quiet (quiet_warn _)
  | some texture =>
      cases agrees with
      | intro surfaces coherent caches =>
          refine (Agrees.intro surfaces coherent caches).drawing _ ?_
          intro surface second agree
          induction sprites generalizing surface second with
          | nil => exact agree
          | cons first rest ih => exact ih (repeats.sprite agree texture.picture first _)

/-! ### Walks -/

/-- One instruction keeps the agreement, unless it draws text. -/
theorem perform (agrees : Agrees builds (Agree extent) stage.assets pass other)
    {descend : Option (Script → Pass σ S → Pass σ S)}
    (followed : Followed builds (Agree extent) stage descend)
    (script : String) {instruction : Instruction}
    (textless : ∀ text, instruction ≠ .drawText text) :
    Agrees builds (Agree extent) stage.assets (stage.perform descend script instruction pass)
      (stage.perform descend script instruction other) := by
  cases visible : instruction.isVisible with
  | false => exact agrees.of_quiet (stage.quiet_perform descend script visible)
  | true =>
      cases instruction with
      | draw shape flags => exact drawShape repeats agrees shape flags
      | drawText text => exact absurd rfl (textless text)
      | drawSprites image sprites => exact drawSprites repeats agrees image sprites
      | drawScript target => exact agrees.drawScript followed script target
      | fillPath => exact agrees.withPath script fun outline => fill repeats agrees outline
      | strokePath => exact agrees.withPath script fun outline => stroke repeats agrees outline
      | _ => cases visible

theorem walkWith {descend : Option (Script → Pass σ S → Pass σ S)}
    (followed : Followed builds (Agree extent) stage descend)
    {script : Script} (textless : Textless script.instructions)
    (agrees : Agrees builds (Agree extent) stage.assets pass other) :
    Agrees builds (Agree extent) stage.assets (stage.walkWith descend script pass)
      (stage.walkWith descend script other) := by
  have performed : ∀ instructions, Textless instructions → ∀ {pass other},
      Agrees builds (Agree extent) stage.assets pass other →
        Agrees builds (Agree extent) stage.assets
          (instructions.foldl (fun pass instruction =>
            stage.perform descend script.id instruction pass) pass)
          (instructions.foldl (fun pass instruction =>
            stage.perform descend script.id instruction pass) other) := by
    intro instructions
    induction instructions with
    | nil => exact fun _ _ _ agrees => agrees
    | cons first rest ih =>
        intro textless pass other agrees
        have here : ∀ text, first ≠ .drawText text := by
          rintro text rfl
          exact textless text List.mem_cons_self
        refine ih (fun text member => textless text (List.mem_cons_of_mem _ member)) ?_
        exact agrees.perform repeats followed script.id here
  rw [Stage.walkWith_eq, Stage.walkWith_eq]
  have entered := agrees.of_quiet (quiet_entering script.id)
  exact (performed script.instructions textless entered).of_quiet quiet_leaving

/-- Scripts without text keep the agreement, and so do all that they refer to. -/
theorem walk (textless : stage.scripts.Textless) (levels : Nat) {script : Script}
    (here : Textless script.instructions)
    (agrees : Agrees builds (Agree extent) stage.assets pass other) :
    Agrees builds (Agree extent) stage.assets (stage.walk levels script pass)
      (stage.walk levels script other) := by
  induction levels generalizing script pass other with
  | zero => exact walkWith repeats (by rintro _ ⟨⟩) here agrees
  | succ levels ih =>
      refine walkWith repeats ?_ here agrees
      rintro walk ⟨⟩ target script found pass other agrees
      exact ih (textless target script found) agrees

end Canvas

end Pass.Agrees

/-- With coherent caches and on surfaces of one size, a replay draws and reports the
same, whatever the caches and the surfaces have seen before. -/
theorem Stage.replay_agrees {stage : Stage σ S}
    (repeats : stage.canvas.Repeats builds size Agree) (textless : stage.scripts.Textless)
    {id : String} {script : Script} (root : stage.scripts.root = some id)
    (found : stage.scripts.find? id = some script) (clear : Colour)
    {shaders others : ShaderCache S} {surface other : σ}
    (coherent : shaders.Coherent (Canvas.Answers builds) stage.assets)
    (caches : others.Coherent (Canvas.Answers builds) stage.assets)
    (sized : size surface = size other) :
    ∃ report cache otherCache after otherAfter,
      stage.replay clear shaders surface = (.ok report, cache, after) ∧
        stage.replay clear others other = (.ok report, otherCache, otherAfter) ∧
        Agree (size surface) after otherAfter ∧
        cache.Coherent (Canvas.Answers builds) stage.assets ∧
        otherCache.Coherent (Canvas.Answers builds) stage.assets := by
  obtain ⟨opened, otherOpened, opens, otherOpens, agree⟩ := repeats.beginFrame clear sized
  have begun : Pass.Agrees builds (Agree (size surface)) stage.assets
      { surface := opened, shaders } { surface := otherOpened, shaders := others } :=
    .intro agree coherent caches
  have walked := begun.walk repeats textless (stage.depthLimit - 1) (textless id script found)
  simp only [replay, root, run, found, opens, otherOpens]
  generalize stage.walk (stage.depthLimit - 1) script { surface := opened, shaders } = done
    at walked ⊢
  generalize stage.walk (stage.depthLimit - 1) script
    { surface := otherOpened, shaders := others } = otherDone at walked ⊢
  cases walked with
  | @intro otherSurface otherShaders surfaces coherent caches =>
      obtain ⟨ended, otherEnded, ends, otherEnds, agree⟩ := repeats.endFrame surfaces
      simp only [ends, Pass.onto, otherEnds]
      exact ⟨_, _, _, _, _, rfl, rfl, agree, coherent.endFrame, caches.endFrame⟩

end ScenePlayer
