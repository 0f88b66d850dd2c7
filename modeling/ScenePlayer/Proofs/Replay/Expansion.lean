import Mathlib.Data.List.Infix
import ScenePlayer.Proofs.Replay.Brackets
import ScenePlayer.Proofs.Replay.Inheritance

/-!
A reference as an inline expansion. Let a script refer to no other, leave the path alone, return
to no state that it has not saved, and in the end to all that it has saved (`Expandable`). Then
a reference to it does what its instructions do between a push and a pop, and counts one more
visit (`Stage.reference_expands_inline`).

In its scope, the script works above a floor of its own (`Pass.scoped`). Between a push and a pop
it works above the floor of the caller, which lies deeper all the way through. Neither floor is
ever reached, so one instruction does the same above both (`Stage.perform_scoped`), and so do all
of them (`Stage.performs_scoped`).
-/

namespace ScenePlayer

variable {σ S : Type}

/-! ### What can be expanded -/

namespace Instruction

/-- Whether an instruction reads or changes the path under construction. -/
def usesPath : Instruction → Bool
  | beginPath => true
  | closePath => true
  | fillPath => true
  | strokePath => true
  | moveTo _ => true
  | lineTo _ => true
  | arcTo .. => true
  | bezierTo .. => true
  | quadraticTo .. => true
  | addShape _ => true
  | pathArc .. => true
  | clipPath _ => true
  | _ => false

/-- A reset is a pop and then a push. -/
def spelledOut : Instruction → List Instruction
  | popPushState => [popState, pushState]
  | instruction => [instruction]

theorem spelledOut_of_pops {instruction : Instruction} (pops : instruction.pops = true) :
    [popState] <+: instruction.spelledOut := by
  cases instruction with
  | popState => exact List.prefix_rfl
  | popPushState => exact List.prefix_append [popState] [pushState]
  | _ => cases pops

end Instruction

/-- Instructions that refer to no script and leave the path alone. Their pops, with those of
resets, return to no more states than were saved before, and in the end to all of them. -/
structure Expandable (body : List Instruction) : Prop where
  plain : ∀ instruction ∈ body, instruction.reference? = none
  pathless : ∀ instruction ∈ body, instruction.usesPath = false
  matched : Matched (body.flatMap Instruction.spelledOut)

instance (body : List Instruction) : Decidable (Expandable body) :=
  decidable_of_iff
    ((∀ instruction ∈ body, instruction.reference? = none) ∧
      (∀ instruction ∈ body, instruction.usesPath = false) ∧
        Matched (body.flatMap Instruction.spelledOut))
    ⟨fun ⟨plain, pathless, matched⟩ => ⟨plain, pathless, matched⟩,
      fun ⟨plain, pathless, matched⟩ => ⟨plain, pathless, matched⟩⟩

/-- Spelled out, a reset counts as a pop and as a push. -/
theorem count_spelledOut (body : List Instruction) :
    (body.flatMap Instruction.spelledOut).count .popState =
        body.count .popState + body.count .popPushState ∧
      (body.flatMap Instruction.spelledOut).count .pushState =
        body.count .pushState + body.count .popPushState := by
  induction body with
  | nil => exact ⟨rfl, rfl⟩
  | cons first rest ih =>
      obtain ⟨pops, pushes⟩ := ih
      rw [List.flatMap_cons, List.count_append, List.count_append, pops, pushes]
      cases first <;> simp [Instruction.spelledOut] <;> omega

namespace Expandable

variable {body : List Instruction} (expandable : Expandable body)

include expandable

theorem nested (part : List Instruction) (inside : part <+: body) :
    part.count .popState ≤ part.count .pushState := by
  have spelled := expandable.matched.nested _ (inside.flatMap Instruction.spelledOut)
  obtain ⟨pops, pushes⟩ := count_spelledOut part
  omega

/-- Whatever is returned to was saved before. -/
theorem unpopped_ne_zero {done : List Instruction} {instruction : Instruction}
    (inside : done ++ [instruction] <+: body) (pops : instruction.pops = true) :
    unpopped done ≠ 0 := by
  have before : done <+: body := (List.prefix_append ..).trans inside
  have difference := unpopped_add_count fun part earlier =>
    expandable.nested part (earlier.trans before)
  have popped : done.flatMap Instruction.spelledOut ++ [.popState] <+:
      body.flatMap Instruction.spelledOut := by
    refine List.IsPrefix.trans ?_ (inside.flatMap Instruction.spelledOut)
    rw [List.flatMap_append, List.flatMap_singleton]
    exact (List.prefix_append_right_inj _).2 (Instruction.spelledOut_of_pops pops)
  have counted := expandable.matched.nested _ popped
  have one : List.count Instruction.popState [.popState] = 1 := rfl
  have none : List.count Instruction.pushState [.popState] = 0 := rfl
  rw [List.count_append, List.count_append, one, none] at counted
  obtain ⟨pops, pushes⟩ := count_spelledOut done
  omega

theorem unpopped : unpopped body = 0 := by
  have difference := unpopped_add_count expandable.nested
  have settled := expandable.matched.settled
  obtain ⟨pops, pushes⟩ := count_spelledOut body
  omega

end Expandable

/-! ### In a scope of its own -/

/-- A pop returns to the same state above another floor, if it does not get down to it. -/
theorem StateStack.pop?_withFloor {stack later : StateStack} {floor : Nat}
    (popped : stack.pop? = some later) (above : floor < stack.below.length) :
    StateStack.pop? { stack with floor } = some { later with floor } := by
  obtain ⟨-, -, below⟩ := pop?_eq_some_iff.1 popped
  exact pop?_eq_some_iff.2 ⟨above, rfl, below⟩

/-- The same pass within a script: above another floor, on another path, with the script active
and its visit counted. -/
def Pass.scoped (floor : Nat) (id : String) (pen : Pen) (pass : Pass σ S) : Pass σ S :=
  { pass with
    stack := { pass.stack with floor }
    active := pass.active ++ [id]
    pen
    report := { pass.report with visited := pass.report.visited + 1 } }

theorem Pass.surrounds_scoped (floor : Nat) (id : String) (pen : Pen) :
    Surrounds fun pass : Pass σ S => pass.scoped floor id pen :=
  ⟨fun _ => rfl, fun _ => rfl, fun _ => rfl, fun _ _ => rfl⟩

namespace Stage

variable (stage : Stage σ S)

/-- An instruction that refers to no script and leaves the path alone does the same within a
script, whatever the script's name and whoever the caller is, if it does not get down to either
floor. -/
theorem perform_scoped (within outside : Option (Script → Pass σ S → Pass σ S))
    (script caller : String) {instruction : Instruction} (plain : instruction.reference? = none)
    (pathless : instruction.usesPath = false) {floor : Nat} (id : String) (pen : Pen)
    {pass : Pass σ S} (saved : instruction.pops = true →
      pass.stack.floor < pass.stack.below.length ∧ floor < pass.stack.below.length) :
    stage.perform within script instruction (pass.scoped floor id pen) =
      (stage.perform outside caller instruction pass).scoped floor id pen := by
  have drawn : ∀ {change : Pass σ S → Pass σ S}, Pass.IsDraw change →
      change (pass.scoped floor id pen) = (change pass).scoped floor id pen :=
    fun draws => draws.through (Pass.surrounds_scoped floor id pen) pass
  -- A pop is not refused above either floor, so that its script is not named in a warning.
  have popped : instruction.pops = true → ∃ later, pass.stack.pop? = some later ∧
      (pass.scoped floor id pen).stack.pop? = some { later with floor } := by
    intro pops
    obtain ⟨own, other⟩ := saved pops
    cases found : pass.stack.pop? with
    | none => exact absurd (StateStack.pop?_eq_none_iff.1 found) (Nat.not_le_of_lt own)
    | some later => exact ⟨later, rfl, StateStack.pop?_withFloor found other⟩
  cases instruction with
  | popState =>
      obtain ⟨later, here, there⟩ := popped rfl
      simp only [perform, here, there]
      rfl
  | popPushState =>
      obtain ⟨later, here, there⟩ := popped rfl
      simp only [perform, StateStack.popPush?, here, there]
      rfl
  | draw shape flags => exact drawn (stage.isDraw_drawShape shape flags)
  | drawText text => exact drawn (stage.isDraw_drawText text)
  | drawSprites image sprites => exact drawn (stage.isDraw_drawSprites image sprites)
  | drawScript target => cases plain
  | beginPath | closePath | fillPath | strokePath | moveTo | lineTo | arcTo | bezierTo
  | quadraticTo | addShape | pathArc | clipPath => cases pathless
  | _ => rfl

theorem pen_perform (descend : Option (Script → Pass σ S → Pass σ S)) (script : String)
    {instruction : Instruction} (plain : instruction.reference? = none)
    (pathless : instruction.usesPath = false) (pass : Pass σ S) :
    (stage.perform descend script instruction pass).pen = pass.pen := by
  have popped : ∀ stack : Option StateStack, (pass.setStack script stack).pen = pass.pen := by
    intro stack
    cases stack <;> rfl
  cases instruction with
  | popState => exact popped _
  | popPushState => exact popped _
  | draw shape flags => exact ((stage.isDraw_drawShape shape flags).drawn pass).pen
  | drawText text => exact ((stage.isDraw_drawText text).drawn pass).pen
  | drawSprites image sprites => exact ((stage.isDraw_drawSprites image sprites).drawn pass).pen
  | drawScript target => cases plain
  | beginPath | closePath | fillPath | strokePath | moveTo | lineTo | arcTo | bezierTo
  | quadraticTo | addShape | pathArc | clipPath => cases pathless
  | _ => rfl

/-- Within a script, its instructions do what they do after a push, as long as none of them gets
down to the floor of the script. -/
theorem performs_scoped (within : Option (Script → Pass σ S → Pass σ S)) (levels : Nat)
    (script caller id : String) (pen : Pen) {pass : Pass σ S}
    (proper : pass.stack.floor ≤ pass.stack.below.length) {body done : List Instruction}
    (expandable : Expandable body) (inside : done <+: body) :
    done.foldl (fun pass instruction => stage.perform within script instruction pass)
        (Pass.scoped (pass.stack.below.length + 1) id pen { pass with stack := pass.stack.push }) =
      (stage.performs levels caller (.pushState :: done) pass).scoped
        (pass.stack.below.length + 1) id pen := by
  induction done using List.reverseRecOn with
  | nil => rfl
  | append_singleton done instruction ih =>
      have before : done <+: body := (List.prefix_append ..).trans inside
      have member : instruction ∈ body := inside.subset (by simp)
      have opened := stage.opened_performs levels caller proper fun part earlier =>
        expandable.nested part (earlier.trans before)
      rw [List.foldl_append, ih before, ← List.cons_append, performs_concat]
      refine stage.perform_scoped within (stage.below levels) script caller
        (expandable.plain _ member) (expandable.pathless _ member) id pen fun pops => ?_
      exact ⟨opened.above proper, opened.deeper (expandable.unpopped_ne_zero inside pops)⟩

theorem pen_performs (levels : Nat) (script : String) {body : List Instruction}
    (plain : ∀ instruction ∈ body, instruction.reference? = none)
    (pathless : ∀ instruction ∈ body, instruction.usesPath = false) (pass : Pass σ S) :
    (stage.performs levels script body pass).pen = pass.pen := by
  induction body generalizing pass with
  | nil => rfl
  | cons first rest ih =>
      obtain ⟨plainHere, plainLater⟩ := List.forall_mem_cons.1 plain
      obtain ⟨pathlessHere, pathlessLater⟩ := List.forall_mem_cons.1 pathless
      exact (ih plainLater pathlessLater _).trans
        (stage.pen_perform (stage.below levels) script plainHere pathlessHere pass)

/-- A reference that is followed is an expansion in line, but for one more visit. -/
theorem drawScript_eq_performs (levels further : Nat) (caller script : String) {target : String}
    (pass : Pass σ S) {body : Script} (proper : pass.stack.floor ≤ pass.stack.below.length)
    (inactive : target ∉ pass.active) (stored : stage.scripts.find? target = some body)
    (expandable : Expandable body.instructions) :
    let inline := stage.performs further script
      (.pushState :: body.instructions ++ [.popState]) pass
    stage.perform (stage.below (levels + 1)) caller (.drawScript target) pass =
      { inline with report := { inline.report with visited := inline.report.visited + 1 } } := by
  intro inline
  generalize performed :
    stage.performs further script (.pushState :: body.instructions) pass = after
  have opened := stage.opened_performs further script proper expandable.nested
  rw [expandable.unpopped, performed] at opened
  have closed : inline = { after with stack := pass.stack } := by
    simp only [inline, performs_concat, performed, perform, opened.close proper]
    rfl
  have walked : stage.walk levels body { pass with stack := pass.stack.enter.2, pen := {} } =
      (after.scoped (pass.stack.below.length + 1) body.id {}).leaving := by
    rw [walk_eq, walkWith_eq, ← performed]
    exact congrArg Pass.leaving (stage.performs_scoped (stage.below levels) further body.id script
      body.id {} proper expandable List.prefix_rfl)
  have returned : StateStack.exit pass.stack.enter.1
      { after.stack with floor := pass.stack.below.length + 1 } = pass.stack := by
    obtain ⟨own, none, below⟩ := opened.saved
    exact StateStack.Confined.exit ⟨below ▸ List.suffix_append own _, rfl⟩
  have pen : after.pen = pass.pen := by
    rw [← performed]
    exact stage.pen_performs further script (List.forall_mem_cons.2 ⟨rfl, expandable.plain⟩)
      (List.forall_mem_cons.2 ⟨rfl, expandable.pathless⟩) pass
  simp only [perform, drawScript, if_neg inactive, below, stored, walked, closed]
  simp only [Pass.scoped, Pass.leaving, returned, List.dropLast_concat, ← pen]

/-- **A reference is a bracketed inline expansion.** Let the floor lie below the top of the stack,
and let a reference be followed to a script that refers to no other, leaves the path alone, never
pops more than it has pushed, and pushes as often as it pops. Then the reference, and a push, the
instructions of the script and a pop, make the same calls of the surface with the same answers, and
leave the same pass: the same surface, shader cache, stack, path, active scripts and clip
identifiers, the same warnings and as many draws. One more visit is all that the reference has on
top. In a replay the floor always lies below the top. -/
theorem reference_expands_inline (stage : Stage σ S) :
    (∀ levels further caller script target (pass : Pass σ S) (body : Script),
      pass.stack.floor < pass.stack.depth → target ∉ pass.active →
        stage.scripts.find? target = some body → Expandable body.instructions →
          let expansion := .pushState :: body.instructions ++ [.popState]
          let reference := stage.perform (stage.below (levels + 1)) caller (.drawScript target) pass
          let inline := stage.performs further script expansion pass
          reference = { inline with
              report := { inline.report with visited := inline.report.visited + 1 } } ∧
            ∃ calls : Trace S,
              (stage.tracing.perform (stage.tracing.below (levels + 1)) caller (.drawScript target)
                pass.traced).surface = (reference.surface, calls) ∧
              (stage.tracing.performs further script expansion pass.traced).surface =
                (inline.surface, calls)) ∧
    ∀ root clear shaders surface steps activations (pass : Pass σ S),
      stage.after root clear steps (.start shaders surface) = .walking activations pass →
        pass.stack.floor < pass.stack.depth := by
  constructor
  · intro levels further caller script target pass body above inactive stored expandable
      expansion reference inline
    have proper : pass.stack.floor ≤ pass.stack.below.length := Nat.le_of_lt_succ above
    have same := stage.drawScript_eq_performs levels further caller script pass proper inactive
      stored expandable
    have traced := congrArg Pass.surface <| stage.tracing.drawScript_eq_performs levels further
      caller script pass.traced proper inactive stored expandable
    have seen := congrArg Pass.surface (stage.reference_traced (levels + 1) caller target pass)
    have surfaces := congrArg Pass.surface same
    exact ⟨same, _, Prod.ext seen rfl, traced.symm.trans (Prod.ext (seen.trans surfaces) rfl)⟩
  · intro root clear shaders surface steps activations pass reached
    have counted := stage.counted_after root clear steps shaders surface
    rw [reached] at counted
    exact Nat.lt_succ_of_le (Counted.le counted)

/-- A script that clips, draws and resets, with a paint that is not there, in the middle of a path
and just above the floor. -/
theorem reference_expands_inline_of_badge :
    let badge : List Instruction :=
      [.pushState, .scissor 2 2, .paint .fill (.stream "s"), .drawText "x", .popPushState,
        .draw (.rect 2 2) ⟨0xff03⟩, .popState, .drawText "y"]
    let scripts := ScriptStore.edited [.put "badge" badge]
    let stage : Stage Recording Nat :=
      { canvas := Recording.canvas, scripts, assets := {}, depthLimit := 64 }
    let pass : Pass Recording Nat :=
      { surface := {}, shaders := {}, stack := { below := [{}], floor := 1 }, active := ["main"],
        pen := Pen.moveTo ⟨1, 1⟩ {}, clipId := 4, report := { visited := 1 } }
    let reference := stage.perform (stage.below 1) "main" (.drawScript "badge") pass
    let inline := stage.performs 0 "main" (.pushState :: badge ++ [.popState]) pass
    pass.stack.floor < pass.stack.depth ∧ "badge" ∉ pass.active ∧ Expandable badge ∧
      reference =
        { inline with report := { inline.report with visited := inline.report.visited + 1 } } ∧
      reference.stack = pass.stack ∧ reference.clipId = 5 ∧
      reference.report = { warnings := [.missingAsset .stream "s"], visited := 2, draws := 3 } := by
  intro badge scripts stage pass reference inline
  have above : pass.stack.floor < pass.stack.depth := by decide
  have inactive : "badge" ∉ pass.active := by decide
  have expandable : Expandable badge := by decide
  obtain ⟨same, -⟩ := stage.reference_expands_inline.1 0 0 "main" "main" "badge" pass
    ⟨"badge", badge, 1⟩ above inactive (by rfl) expandable
  exact ⟨above, inactive, expandable, same, by decide +kernel, by decide +kernel,
    by decide +kernel⟩

end Stage

end ScenePlayer
