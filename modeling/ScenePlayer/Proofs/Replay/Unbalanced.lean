import Mathlib.Data.List.Induction
import ScenePlayer.Canvas.Recording
import ScenePlayer.Proofs.Replay.Moment
import ScenePlayer.Proofs.Script.Edits
import ScenePlayer.Proofs.State.Brackets

/-!
Which pops are unbalanced. A script's own instructions say how many states are saved when one
of them is carried out (`unpopped`), and above the floor of its scope there are just as many
(`Counted`). Instructions keep this by one step each (`Stage.saves_perform`); a script that is
referred to starts with none of its own, and when it is left, its caller has as many as before.
So a pop is refused if and only if the script has none left, whoever refers to it
(`Stage.unbalanced_pops_are_counted`).
-/

namespace ScenePlayer

variable {σ S : Type}

/-! ### Counting -/

namespace Instruction

/-- Whether an instruction returns to a saved state. -/
def pops : Instruction → Bool
  | popState => true
  | popPushState => true
  | _ => false

/-- Whether an instruction saves a state or returns to one. -/
def isBracket : Instruction → Bool
  | pushState => true
  | popState => true
  | popPushState => true
  | _ => false

/-- How many states are saved after an instruction, if `count` were saved before it. -/
def unpopped (count : Nat) : Instruction → Nat
  | pushState => count + 1
  | popState => count - 1
  | _ => count

theorem unpopped_eq_self {instruction : Instruction} (bracket : instruction.isBracket = false)
    (count : Nat) : instruction.unpopped count = count := by
  cases instruction with
  | pushState => cases bracket
  | popState => cases bracket
  | _ => rfl

theorem reference?_of_pops {instruction : Instruction} (pops : instruction.pops = true) :
    instruction.reference? = none := by
  cases instruction with
  | drawScript target => cases pops
  | _ => rfl

end Instruction

/-- How many states some instructions have saved and not returned to. -/
def unpopped (done : List Instruction) : Nat := done.foldl Instruction.unpopped 0

theorem unpopped_concat (done : List Instruction) (instruction : Instruction) :
    unpopped (done ++ [instruction]) = instruction.unpopped (unpopped done) := by
  rw [unpopped, List.foldl_append]
  rfl

/-- References do not count. -/
theorem unpopped_filter_plain (done : List Instruction) :
    unpopped (done.filter fun instruction => instruction.reference?.isNone) = unpopped done := by
  induction done using List.reverseRecOn with
  | nil => rfl
  | append_singleton done instruction ih =>
      rw [List.filter_append, unpopped_concat]
      cases refers : instruction.reference? with
      | none =>
          rw [List.filter_cons_of_pos (by simp [refers]), List.filter_nil, unpopped_concat, ih]
      | some target =>
          obtain rfl := reference?_eq_some.1 refers
          rw [List.filter_cons_of_neg Bool.false_ne_true, List.filter_nil, List.append_nil]
          exact ih

/-! ### One instruction -/

namespace Stage

variable (stage : Stage σ S) (descend : Option (Script → Pass σ S → Pass σ S)) (script : String)

/-- Instructions that save no state, return to none and refer to no script change the top of
the stack at most. -/
theorem stack_perform {instruction : Instruction} (plain : instruction.reference? = none)
    (bracket : instruction.isBracket = false) (pass : Pass σ S) :
    ∃ top, (stage.perform descend script instruction pass).stack = { pass.stack with top } := by
  have drawn : ∀ {after : Pass σ S}, pass.Drawn after →
      ∃ top, after.stack = { pass.stack with top } := fun drawn => ⟨pass.stack.top, drawn.stack⟩
  cases instruction with
  | pushState => cases bracket
  | popState => cases bracket
  | popPushState => cases bracket
  | drawScript target => cases plain
  | draw shape flags => exact drawn ((stage.isDraw_drawShape shape flags).drawn pass)
  | drawText text => exact drawn ((stage.isDraw_drawText text).drawn pass)
  | drawSprites image sprites => exact drawn ((stage.isDraw_drawSprites image sprites).drawn pass)
  | fillPath => exact drawn (drawn_withPath stage.isDraw_fill script pass)
  | strokePath => exact drawn (drawn_withPath stage.isDraw_stroke script pass)
  | clipPath mode =>
      simp only [perform, Pass.addClip, Pass.editTop]
      split <;> exact ⟨_, rfl⟩
  | _ => exact ⟨_, rfl⟩

/-- A pop gives a warning if nothing is saved above the floor, and only then. -/
theorem perform_of_pops {instruction : Instruction} (pops : instruction.pops = true)
    (pass : Pass σ S) :
    (pass.stack.below.length ≤ pass.stack.floor →
      stage.perform descend script instruction pass = pass.warn (.unbalancedPop script)) ∧
    (pass.stack.floor < pass.stack.below.length →
      (stage.perform descend script instruction pass).report = pass.report) := by
  have decided : ∀ stack? : Option StateStack,
      (stack? = none ↔ pass.stack.below.length ≤ pass.stack.floor) →
        (pass.stack.below.length ≤ pass.stack.floor →
          pass.setStack script stack? = pass.warn (.unbalancedPop script)) ∧
        (pass.stack.floor < pass.stack.below.length →
          (pass.setStack script stack?).report = pass.report) := by
    intro stack? refused
    cases stack? with
    | none => exact ⟨fun _ => rfl, fun above => absurd (refused.1 rfl) (Nat.not_le_of_lt above)⟩
    | some stack =>
        exact ⟨fun empty => absurd (refused.2 empty) nofun, fun _ => rfl⟩
  cases instruction with
  | popState => exact decided _ StateStack.pop?_eq_none_iff
  | popPushState => exact decided _ StateStack.popPush?_eq_none_iff
  | _ => cases pops

theorem warns_of_pops {instruction : Instruction} (pops : instruction.pops = true)
    {pass : Pass σ S} {count : Nat} (saves : pass.stack.Saves count) :
    let later := stage.perform descend script instruction pass
    (later.report.warnings = pass.report.warnings ++ [.unbalancedPop script] ↔ count = 0) ∧
      (count = 0 → later.stack = pass.stack) ∧ (count ≠ 0 → later.report = pass.report) := by
  obtain ⟨refused, carried⟩ := stage.perform_of_pops descend script pops pass
  have nothing : count = 0 → stage.perform descend script instruction pass =
      pass.warn (.unbalancedPop script) := fun zero => refused (saves.le_floor_iff.2 zero)
  have something : count ≠ 0 →
      (stage.perform descend script instruction pass).report = pass.report := fun positive =>
    carried (Nat.lt_of_not_le fun low => positive (saves.le_floor_iff.1 low))
  refine ⟨⟨fun warned => ?_, fun zero => by rw [nothing zero]; rfl⟩,
    fun zero => by rw [nothing zero]; rfl, something⟩
  by_contra positive
  rw [something positive] at warned
  exact absurd warned.symm (by simp)

/-- An instruction changes the number of states saved above the floor as it counts. -/
theorem saves_perform {instruction : Instruction} (plain : instruction.reference? = none)
    {pass : Pass σ S} {count : Nat} (saves : pass.stack.Saves count) :
    (stage.perform descend script instruction pass).stack.floor = pass.stack.floor ∧
      (stage.perform descend script instruction pass).stack.Saves (instruction.unpopped count) := by
  cases bracket : instruction.isBracket with
  | false =>
      obtain ⟨top, stack⟩ := stage.stack_perform descend script plain bracket pass
      rw [stack, Instruction.unpopped_eq_self bracket]
      exact ⟨rfl, saves⟩
  | true =>
      cases instruction with
      | pushState => exact ⟨rfl, saves.push⟩
      | popState =>
          cases popped : pass.stack.pop? with
          | none =>
              have low := StateStack.pop?_eq_none_iff.1 popped
              obtain rfl : count = 0 := saves.le_floor_iff.1 low
              simp only [perform, popped]
              exact ⟨rfl, saves⟩
          | some later =>
              simp only [perform, popped]
              exact saves.pop popped
      | popPushState =>
          cases popped : pass.stack.popPush? with
          | none =>
              simp only [perform, popped]
              exact ⟨rfl, saves⟩
          | some later =>
              simp only [perform, popped]
              exact saves.popPush popped
      | _ => cases bracket

end Stage

/-! ### Scripts being walked -/

/-- Each script being walked has as many states saved above its floor as its instructions
say, and the scope that it returns to is where its caller was. -/
def Counted : List Activation → (below floor : Nat) → Prop
  | [], below, floor => floor ≤ below
  | ⟨script, rest, caller⟩ :: outer, below, floor =>
      (∃ done, script.instructions = done ++ rest ∧ below = floor + unpopped done) ∧
        match caller with
        | none => outer = []
        | some (_, scope) => floor = scope.below + 1 ∧ Counted outer scope.below scope.floor

/-- The scripts being walked are counted on the stack as it is. -/
def Moment.Counted : Moment σ S → Prop
  | .walking activations pass =>
      ScenePlayer.Counted activations pass.stack.below.length pass.stack.floor
  | _ => True

theorem Counted.le {activations : List Activation} {below floor : Nat}
    (counted : Counted activations below floor) : floor ≤ below := by
  cases activations with
  | nil => exact counted
  | cons activation outer =>
      obtain ⟨⟨done, -, count⟩, -⟩ := counted
      exact count ▸ Nat.le_add_right ..

variable {script : Script} {instruction : Instruction} {rest : List Instruction}
  {caller : Option (Pen × Scope)} {outer : List Activation} {pass : Pass σ S}

/-- A script goes on by one instruction. -/
theorem Counted.advance {below later floor : Nat}
    (counted : Counted (⟨script, instruction :: rest, caller⟩ :: outer) below floor)
    (moved : ∀ count, below = floor + count → later = floor + instruction.unpopped count) :
    Counted (⟨script, rest, caller⟩ :: outer) later floor := by
  obtain ⟨⟨done, split, count⟩, returns⟩ := counted
  refine ⟨⟨done ++ [instruction], ?_, ?_⟩, returns⟩
  · rw [split, List.append_assoc]
    rfl
  · rw [unpopped_concat]
    exact moved _ count

/-- A script starts with nothing saved above its floor. -/
theorem counted_start (script : Script) {floor : Nat}
    (returns : match caller with
      | none => outer = []
      | some (_, scope) => floor = scope.below + 1 ∧ Counted outer scope.below scope.floor) :
    Counted (⟨script, script.instructions, caller⟩ :: outer) floor floor :=
  ⟨⟨[], rfl, rfl⟩, returns⟩

/-- When a script is left, its caller finds as much saved as before. -/
theorem Counted.leave (counted : Counted (⟨script, rest, caller⟩ :: outer)
      pass.stack.below.length pass.stack.floor) :
    (Moment.walking outer (pass.leaving.restoring caller)).Counted := by
  have proper := counted.le
  obtain ⟨-, returns⟩ := counted
  cases caller with
  | none =>
      subst returns
      exact proper
  | some caller =>
      obtain ⟨pen, scope⟩ := caller
      obtain ⟨floor, outside⟩ := returns
      have length : (pass.stack.exit scope).below.length = scope.below := by
        refine (StateStack.length_keep ..).trans ?_
        omega
      rw [← length] at outside
      exact outside

namespace Stage

variable {stage : Stage σ S} {root : String} {clear : Colour}

theorem counted_perform (plain : instruction.reference? = none)
    (counted : Counted (⟨script, instruction :: rest, caller⟩ :: outer)
      pass.stack.below.length pass.stack.floor) :
    (Moment.walking (⟨script, rest, caller⟩ :: outer)
      (stage.perform none script.id instruction pass)).Counted := by
  have moved : ∀ count, pass.stack.Saves count → _ :=
    fun count => stage.saves_perform none script.id plain
  have floor := (moved _ (Nat.add_sub_of_le counted.le).symm).1
  show Counted _ _ _
  rw [floor]
  refine counted.advance fun count here => ?_
  rw [← floor]
  exact (moved count here).2

theorem counted_follow {target : String}
    (counted : Counted (⟨script, .drawScript target :: rest, caller⟩ :: outer)
      pass.stack.below.length pass.stack.floor) :
    (stage.follow script.id target (⟨script, rest, caller⟩ :: outer) pass).Counted := by
  have same : Counted (⟨script, rest, caller⟩ :: outer) pass.stack.below.length
      pass.stack.floor := counted.advance fun _ count => count
  unfold follow
  split
  · exact same
  · split
    · exact same
    · split
      · exact same
      · rename_i next _
        have started : Counted (⟨next, next.instructions, some (pass.pen, pass.stack.enter.1)⟩ ::
            ⟨script, rest, caller⟩ :: outer) pass.stack.enter.2.floor pass.stack.enter.2.floor :=
          counted_start next ⟨rfl, same⟩
        exact started

theorem counted_next {moment later : Moment σ S} (counted : moment.Counted)
    (step : stage.next root clear moment = some later) : later.Counted := by
  cases moment with
  | start shaders surface =>
      simp only [next] at step
      split at step
      · cases step
        trivial
      · rename_i script _
        split at step <;> cases step
        · trivial
        · have started : Counted [⟨script, script.instructions, none⟩] 0 0 :=
            counted_start script rfl
          exact started
  | ended answer => cases step
  | walking activations pass =>
      cases activations with
      | nil =>
          simp only [next] at step
          split at step <;> cases step <;> trivial
      | cons activation outer =>
          obtain ⟨script, rest, caller⟩ := activation
          cases rest with
          | nil =>
              cases step
              exact Counted.leave counted
          | cons instruction rest =>
              cases refers : instruction.reference? with
              | none =>
                  simp only [next, refers] at step
                  cases step
                  exact counted_perform refers counted
              | some target =>
                  obtain rfl := reference?_eq_some.1 refers
                  cases step
                  exact counted_follow counted

theorem counted_after (stage : Stage σ S) (root : String) (clear : Colour) (steps : Nat)
    (shaders : ShaderCache S) (surface : σ) :
    (stage.after root clear steps (.start shaders surface)).Counted :=
  after_of_next counted_next steps trivial

/-- **A script's own instructions decide which of its pops are unbalanced.** At every moment of
a replay, which gets to its end, and in every walk of a script, whoever its caller is and however
deep it is nested: a pop of either kind is warned of, by the name of this script, if and only if
the count over the script's own instructions before it is zero, where saving a state counts one
up, and returning to one counts one down as long as there is one. Then it leaves the stack as it
is, and else it gives no warning at all. References do not count, whatever they lead to: the
states that are saved above the floor are always those of this count. -/
theorem unbalanced_pops_are_counted (stage : Stage σ S) (root : String) (clear : Colour)
    (shaders : ShaderCache S) (surface : σ) :
    let moment := fun steps => stage.after root clear steps (.start shaders surface)
    (∃ steps, moment steps = .ended (stage.run root clear shaders surface)) ∧
    ∀ steps script instruction rest caller outer pass,
      moment steps = .walking (⟨script, instruction :: rest, caller⟩ :: outer) pass →
        ∃ done, script.instructions = done ++ instruction :: rest ∧
          pass.stack.below.length = pass.stack.floor + unpopped done ∧
          unpopped (done.filter fun earlier => earlier.reference?.isNone) = unpopped done ∧
          (instruction.pops = true →
            ∃ later, moment (steps + 1) = .walking (⟨script, rest, caller⟩ :: outer) later ∧
              (later.report.warnings = pass.report.warnings ++ [.unbalancedPop script.id] ↔
                unpopped done = 0) ∧
              (unpopped done = 0 → later.stack = pass.stack) ∧
              (unpopped done ≠ 0 → later.report = pass.report)) := by
  intro moment
  refine ⟨leads_run shaders surface, ?_⟩
  intro steps script instruction rest caller outer pass reached
  have counted := stage.counted_after root clear steps shaders surface
  rw [show stage.after root clear steps (.start shaders surface) = _ from reached] at counted
  obtain ⟨⟨done, split, count⟩, -⟩ := counted
  refine ⟨done, split, count, unpopped_filter_plain done, fun pops => ?_⟩
  refine ⟨stage.perform none script.id instruction pass, ?_,
    stage.warns_of_pops none script.id pops count⟩
  show stage.after root clear (steps + 1) (.start shaders surface) = _
  rw [after_add, show stage.after root clear steps (.start shaders surface) = _ from reached]
  simp only [after, next, Instruction.reference?_of_pops pops]

/-- What a script has pushed is of no use to the scripts that it refers to, and the other way
round. -/
example :
    let scripts := ScriptStore.edited
      [.put "main" [.pushState, .drawScript "leak", .popState, .popPushState],
        .put "leak" [.popState, .pushState, .popPushState, .pushState]]
    let stage : Stage Recording Nat :=
      { canvas := Recording.canvas, scripts, assets := {}, depthLimit := 64 }
    (stage.run "main" .black {} {}).1.toOption.map ReplayReport.warnings =
      some [.unbalancedPop "leak", .unbalancedPop "main"] := by rfl

end Stage

end ScenePlayer
