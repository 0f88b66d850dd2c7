import Mathlib.Data.List.Infix
import ScenePlayer.Proofs.Replay.Confinement
import ScenePlayer.Proofs.Replay.Unbalanced

/-!
Push and pop are brackets. If instructions return to no more states than they have saved, and
in the end to all of them (`Matched`), a push before them and a pop after them leave the stack
as it was, whatever else happens in between (`Stage.brackets_restore`).

The stack on which the bracket was opened stays at the bottom, and on top of it are the states
that the instructions have saved and not returned to (`Stage.opened_performs`). So no pop in the
bracket gets down to the floor.
-/

namespace ScenePlayer

/-- Every state that is returned to was saved before, and every state that is saved is returned
to. -/
structure Matched (body : List Instruction) : Prop where
  nested : ∀ part, part <+: body → part.count .popState ≤ part.count .pushState
  settled : body.count .popState = body.count .pushState

instance (body : List Instruction) : Decidable (Matched body) :=
  decidable_of_iff
    ((∀ part ∈ body.inits, part.count .popState ≤ part.count .pushState) ∧
      body.count .popState = body.count .pushState) <| by
    simp only [List.mem_inits]
    exact ⟨fun ⟨nested, settled⟩ => ⟨nested, settled⟩, fun ⟨nested, settled⟩ => ⟨nested, settled⟩⟩

/-- As long as no more is popped than was pushed, the difference is what is left. -/
theorem unpopped_add_count {body : List Instruction}
    (nested : ∀ part, part <+: body → part.count .popState ≤ part.count .pushState) :
    unpopped body + body.count .popState = body.count .pushState := by
  induction body using List.reverseRecOn with
  | nil => rfl
  | append_singleton done instruction ih =>
      have before := ih fun part inside => nested part (inside.trans (List.prefix_append _ _))
      have here := nested _ List.prefix_rfl
      rw [List.count_append, List.count_append] at here
      rw [unpopped_concat, List.count_append, List.count_append]
      cases instruction with
      | pushState =>
          have one : List.count Instruction.pushState [.pushState] = 1 := rfl
          have none : List.count Instruction.popState [.pushState] = 0 := rfl
          simp only [Instruction.unpopped, one, none]
          omega
      | popState =>
          have none : List.count Instruction.pushState [.popState] = 0 := rfl
          have one : List.count Instruction.popState [.popState] = 1 := rfl
          simp only [Instruction.unpopped, one, none] at here ⊢
          omega
      | _ => exact before

theorem Matched.unpopped {body : List Instruction} (matched : Matched body) :
    unpopped body = 0 := by
  have difference := unpopped_add_count matched.nested
  have settled := matched.settled
  omega

variable {σ S : Type}

namespace Stage

variable (stage : Stage σ S) (levels : Nat) (script : String)

/-- Carry out instructions of a script below which `levels` more may be nested. -/
def performs (instructions : List Instruction) (pass : Pass σ S) : Pass σ S :=
  instructions.foldl (fun pass instruction =>
    stage.perform (stage.below levels) script instruction pass) pass

theorem performs_concat (instructions : List Instruction) (instruction : Instruction)
    (pass : Pass σ S) :
    stage.performs levels script (instructions ++ [instruction]) pass =
      stage.perform (stage.below levels) script instruction
        (stage.performs levels script instructions pass) := by
  rw [performs, List.foldl_append]
  rfl

/-- One instruction in a bracket saves a state, returns to one that was saved in it, or leaves
what is saved. -/
theorem opened_perform {outer : StateStack} {pass : Pass σ S} {count : Nat}
    (proper : outer.floor ≤ outer.below.length) (opened : outer.Opened count pass.stack)
    {instruction : Instruction} (enough : instruction = .popState → count ≠ 0) :
    outer.Opened (instruction.unpopped count)
      (stage.perform (stage.below levels) script instruction pass).stack := by
  have refused : ¬ pass.stack.below.length ≤ pass.stack.floor :=
    Nat.not_le_of_lt (opened.above proper)
  cases refers : instruction.reference? with
  | some target =>
      obtain rfl := reference?_eq_some.1 refers
      obtain ⟨surface, shaders, clipId, report, same⟩ :=
        stage.drawScript_restores levels script target pass
      rw [same]
      exact opened
  | none =>
      cases bracket : instruction.isBracket with
      | false =>
          obtain ⟨top, stack⟩ :=
            stage.stack_perform (stage.below levels) script refers bracket pass
          rw [stack, Instruction.unpopped_eq_self bracket]
          exact ⟨opened.floor, opened.saved⟩
      | true =>
          cases instruction with
          | pushState => exact opened.push
          | popState =>
              obtain ⟨fewer, rfl⟩ := Nat.exists_eq_succ_of_ne_zero (enough rfl)
              cases popped : pass.stack.pop? with
              | none => exact absurd (StateStack.pop?_eq_none_iff.1 popped) refused
              | some later =>
                  simp only [perform, popped]
                  exact opened.pop popped
          | popPushState =>
              cases popped : pass.stack.popPush? with
              | none => exact absurd (StateStack.popPush?_eq_none_iff.1 popped) refused
              | some later =>
                  simp only [perform, popped]
                  exact opened.popPush popped
          | _ => cases bracket

/-- In a bracket there are, on top of the stack on which it was opened, the states that the
instructions so far have saved and not returned to. -/
theorem opened_performs {pass : Pass σ S} (proper : pass.stack.floor ≤ pass.stack.below.length)
    {body : List Instruction}
    (nested : ∀ part, part <+: body → part.count .popState ≤ part.count .pushState) :
    pass.stack.Opened (unpopped body)
      (stage.performs levels script (.pushState :: body) pass).stack := by
  induction body using List.reverseRecOn with
  | nil => exact StateStack.opened_push pass.stack
  | append_singleton done instruction ih =>
      have before : ∀ part, part <+: done → part.count .popState ≤ part.count .pushState :=
        fun part inside => nested part (inside.trans (List.prefix_append _ _))
      rw [unpopped_concat, ← List.cons_append, performs_concat]
      refine stage.opened_perform levels script proper (ih before) ?_
      -- A pop that comes next is counted in a prefix, so something is left for it to pop.
      rintro rfl
      have here := nested _ List.prefix_rfl
      have difference := unpopped_add_count before
      rw [List.count_append, List.count_append] at here
      have one : List.count Instruction.popState [.popState] = 1 := rfl
      have none : List.count Instruction.pushState [.popState] = 0 := rfl
      omega

/-- No pop in a bracket is warned of. -/
theorem report_of_pops {outer : StateStack} {pass : Pass σ S} {count : Nat}
    (proper : outer.floor ≤ outer.below.length) (opened : outer.Opened count pass.stack)
    {instruction : Instruction} (pops : instruction.pops = true) :
    (stage.perform (stage.below levels) script instruction pass).report = pass.report :=
  (stage.perform_of_pops (stage.below levels) script pops pass).2 (opened.above proper)

/-- **Push and pop are brackets.** Let instructions return to no more states than they have
saved, and in the end to all of them. Whatever else they do, resets and references to scripts
that are not balanced among it: after a push, these instructions and a pop, the whole stack is
what it was before, if only its floor does not lie above its top, and no pop of the bracket is
warned of. In a replay the floor never lies above the top. -/
theorem brackets_restore (stage : Stage σ S) :
    (∀ levels script body (pass : Pass σ S), pass.stack.floor < pass.stack.depth → Matched body →
      let performs := fun instructions => stage.performs levels script instructions pass
      (performs (.pushState :: body ++ [.popState])).stack = pass.stack ∧
        ∀ before instruction after, body ++ [.popState] = before ++ instruction :: after →
          instruction.pops = true →
            (performs (.pushState :: before ++ [instruction])).report =
              (performs (.pushState :: before)).report) ∧
    ∀ root clear shaders surface steps activations (pass : Pass σ S),
      stage.after root clear steps (.start shaders surface) = .walking activations pass →
        pass.stack.floor < pass.stack.depth := by
  constructor
  · intro levels script body pass above matched performs
    have proper : pass.stack.floor ≤ pass.stack.below.length := Nat.le_of_lt_succ above
    constructor
    · have opened := stage.opened_performs levels script proper matched.nested
      rw [matched.unpopped] at opened
      have closed := opened.close proper
      simp only [performs, performs_concat, perform, closed]
      rfl
    · intro before instruction after split pops
      have shorter : before.length ≤ body.length := by
        have lengths := congrArg List.length split
        simp only [List.length_append, List.length_cons, List.length_nil] at lengths
        omega
      have early : before <+: body := List.prefix_of_prefix_length_le
        (split ▸ List.prefix_append before _) (List.prefix_append body _) shorter
      have opened := stage.opened_performs levels script proper
        fun part inside => matched.nested part (inside.trans early)
      simp only [performs, performs_concat]
      exact stage.report_of_pops levels script proper opened pops
  · intro root clear shaders surface steps activations pass reached
    have counted := stage.counted_after root clear steps shaders surface
    rw [reached] at counted
    exact Nat.lt_succ_of_le (Counted.le counted)

/-- A bracket at the floor, with a reset, an inner bracket and a script that pops what it has
not pushed and leaves pushed what it has. -/
theorem brackets_restore_around_leak :
    let scripts := ScriptStore.edited
      [.put "leak" [.popState, .pushState, .popPushState, .paint .fill (.stream "s")]]
    let stage : Stage Recording Nat :=
      { canvas := Recording.canvas, scripts, assets := {}, depthLimit := 64 }
    let pass : Pass Recording Nat :=
      { surface := {}, shaders := {}, stack := { below := [{}], floor := 1 } }
    let body : List Instruction :=
      [.popPushState, .paint .fill (.stream "s"), .pushState, .drawScript "leak",
        .clipPath .intersect, .popState]
    let after := stage.performs 3 "main" (.pushState :: body ++ [.popState]) pass
    pass.stack.floor < pass.stack.depth ∧ Matched body ∧ after.stack = pass.stack ∧
      after.report.warnings = [.unbalancedPop "leak", .emptyPath "main"] := by
  intro scripts stage pass body after
  have above : pass.stack.floor < pass.stack.depth := by decide
  have matched : Matched body := by decide
  exact ⟨above, matched, (stage.brackets_restore.1 3 "main" body pass above matched).1,
    by decide +kernel⟩

end Stage

end ScenePlayer
