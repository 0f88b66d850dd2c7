import ScenePlayer.Proofs.History
import ScenePlayer.Proofs.State.Brackets
import ScenePlayer.Proofs.State.Confinement
import ScenePlayer.Proofs.State.Positions

/-!
Runs of operations on a stack. Scopes can be left in any order, late and again and again
(`StackStep.exit`). Such a scope may put the floor above the entries, but it always leaves the entry
on which it was entered or what is left below it, so there is a top at all times
(`StackSession.run?_indexed`). If each scope is left before those around it (`Nested`), the entries
on which the open scopes were entered lie one above the other (`StackSession.Encloses`), and leaving
a scope gives back the stack of the moment at which it was entered.
-/

namespace ScenePlayer

/-- An operation on a stack. The scopes that have been obtained are numbered in order. -/
inductive StackStep where
  | push
  | pop
  | popPush
  | edit (edit : DrawState → DrawState)
  | enter
  | exit (number : Nat)

namespace StackStep

def isEnter : StackStep → Bool
  | .enter => true
  | _ => false

/-- Whether an operation neither enters nor leaves a scope. -/
def isInner : StackStep → Bool
  | .enter => false
  | .exit _ => false
  | _ => true

/-- How many scopes have been entered. -/
def entered (steps : List StackStep) : Nat := steps.countP isEnter

/-- What an operation does to the entries, first entry first. -/
inductive Changes : StackStep → List DrawState → List DrawState → Prop where
  | push (below : List DrawState) (top : DrawState) :
      Changes .push (below ++ [top]) (below ++ [top, top])
  | pop (below : List DrawState) (saved top : DrawState) :
      Changes .pop (below ++ [saved, top]) (below ++ [saved])
  | popRefused (entries : List DrawState) : Changes .pop entries entries
  | popPush (below : List DrawState) (saved top : DrawState) :
      Changes .popPush (below ++ [saved, top]) (below ++ [saved, saved])
  | popPushRefused (entries : List DrawState) : Changes .popPush entries entries
  | edit (below : List DrawState) (top : DrawState) (edit : DrawState → DrawState) :
      Changes (.edit edit) (below ++ [top]) (below ++ [edit top])
  | enter (below : List DrawState) (top : DrawState) :
      Changes .enter (below ++ [top]) (below ++ [top, top])
  | exit (number : Nat) (kept dropped : List DrawState) (some : kept ≠ []) :
      Changes (.exit number) (kept ++ dropped) kept

end StackStep

/-- Each scope is left before those around it. `moments` are the operations before each scope that
is still open was entered, innermost first. -/
inductive Nested : List StackStep → List (List StackStep) → Prop where
  | start : Nested [] []
  | inner {steps : List StackStep} {moments : List (List StackStep)} {step : StackStep}
      (nested : Nested steps moments) (inner : step.isInner = true) :
      Nested (steps ++ [step]) moments
  | enter {steps : List StackStep} {moments : List (List StackStep)}
      (nested : Nested steps moments) : Nested (steps ++ [.enter]) (steps :: moments)
  | exit {steps before : List StackStep} {moments : List (List StackStep)}
      (nested : Nested steps (before :: moments)) :
      Nested (steps ++ [.exit (StackStep.entered before)]) moments

/-- Operations that are nested are so from the beginning. -/
theorem Nested.of_prefix {steps early : List StackStep} {moments : List (List StackStep)}
    (nested : Nested steps moments) (beginning : early <+: steps) :
    ∃ moments, Nested early moments := by
  induction nested with
  | start =>
      obtain rfl := List.prefix_nil.1 beginning
      exact ⟨[], .start⟩
  | inner nested inner ih =>
      rcases List.prefix_concat_iff.1 beginning with rfl | earlier
      · exact ⟨_, .inner nested inner⟩
      · exact ih earlier
  | enter nested ih =>
      rcases List.prefix_concat_iff.1 beginning with rfl | earlier
      · exact ⟨_, .enter nested⟩
      · exact ih earlier
  | exit nested ih =>
      rcases List.prefix_concat_iff.1 beginning with rfl | earlier
      · exact ⟨_, .exit nested⟩
      · exact ih earlier

/-- Each open scope was entered after its moment. -/
theorem Nested.entered_after {steps : List StackStep} {moments : List (List StackStep)}
    (nested : Nested steps moments) : ∀ before ∈ moments, before ++ [.enter] <+: steps := by
  induction nested with
  | start => nofun
  | inner nested inner ih =>
      exact fun before member => (ih before member).trans (List.prefix_append _ _)
  | enter nested ih =>
      refine List.forall_mem_cons.2 ⟨List.prefix_rfl, fun before member => ?_⟩
      exact (ih before member).trans (List.prefix_append _ _)
  | exit nested ih =>
      exact fun before member => (ih before (List.mem_cons_of_mem _ member)).trans
        (List.prefix_append _ _)

/-- A stack and the scopes that have been obtained from it. -/
structure StackSession where
  stack : StateStack
  scopes : List Scope := []

/-- The same for a stack whose entries are found by position. -/
structure IndexedSession where
  stack : IndexedStack
  scopes : List IndexedScope := []

namespace IndexedSession

/-- Perform an operation, if the entries that it needs are there, and answer whether it was
carried out. -/
def perform? (session : IndexedSession) : StackStep → Option (Bool × IndexedSession)
  | .push => session.stack.push?.map fun stack => (true, { session with stack })
  | .pop => some (session.stack.pop.1, { session with stack := session.stack.pop.2 })
  | .popPush => session.stack.popPush?.map fun done => (done.1, { session with stack := done.2 })
  | .edit edit => (session.stack.editTop? edit).map fun stack => (true, { session with stack })
  | .enter => session.stack.enter?.map fun done => (true, ⟨done.2, session.scopes ++ [done.1]⟩)
  | .exit number =>
      match session.scopes[number]? with
      | some scope => some (true, { session with stack := session.stack.exit scope })
      | none => some (false, session)

def run? (session : IndexedSession) (steps : List StackStep) : Option IndexedSession :=
  steps.foldlM (fun session step => (session.perform? step).map Prod.snd) session

end IndexedSession

namespace StackSession

/-- A stack with one entry. -/
def start (base : DrawState) : StackSession := { stack := { top := base } }

/-- Perform an operation, and answer whether it was carried out. -/
def perform (session : StackSession) : StackStep → Bool × StackSession
  | .push => (true, { session with stack := session.stack.push })
  | .pop =>
      (session.stack.pop?.isSome, { session with stack := session.stack.pop?.getD session.stack })
  | .popPush =>
      (session.stack.popPush?.isSome,
        { session with stack := session.stack.popPush?.getD session.stack })
  | .edit edit => (true, { session with stack := session.stack.editTop edit })
  | .enter => (true, ⟨session.stack.enter.2, session.scopes ++ [session.stack.enter.1]⟩)
  | .exit number =>
      match session.scopes[number]? with
      | some scope => (true, { session with stack := session.stack.exit scope })
      | none => (false, session)

def run (session : StackSession) (steps : List StackStep) : StackSession :=
  steps.foldl (fun session step => (session.perform step).2) session

/-- The session with its entries in a list. -/
def indexed (session : StackSession) : IndexedSession :=
  ⟨session.stack.indexed, session.scopes.map Scope.indexed⟩

variable {session : StackSession} {steps before : List StackStep} {step : StackStep}
  {moments : List (List StackStep)} {stack : StateStack} {scopes : List Scope}

theorem run_concat (session : StackSession) (steps : List StackStep) (step : StackStep) :
    session.run (steps ++ [step]) = ((session.run steps).perform step).2 := by
  simp [run]

/-! ### Any order -/

/-- No operation misses an entry. -/
theorem perform?_indexed (session : StackSession) (step : StackStep) :
    session.indexed.perform? step =
      some ((session.perform step).1, (session.perform step).2.indexed) := by
  cases step with
  | push => simp [IndexedSession.perform?, perform, indexed, IndexedStack.push?_indexed]
  | pop => simp [IndexedSession.perform?, perform, indexed, IndexedStack.pop_indexed]
  | popPush => simp [IndexedSession.perform?, perform, indexed, IndexedStack.popPush?_indexed]
  | edit edit => simp [IndexedSession.perform?, perform, indexed, IndexedStack.editTop?_indexed]
  | enter => simp [IndexedSession.perform?, perform, indexed, IndexedStack.enter?_indexed]
  | exit number =>
      simp only [IndexedSession.perform?, perform, indexed, List.getElem?_map]
      cases session.scopes[number]? with
      | none => rfl
      | some scope => simp [IndexedStack.exit_indexed]

theorem run?_indexed (session : StackSession) (steps : List StackStep) :
    session.indexed.run? steps = some (session.run steps).indexed := by
  induction steps generalizing session with
  | nil => rfl
  | cons step steps ih =>
      rw [IndexedSession.run?, List.foldlM_cons, perform?_indexed]
      exact ih (session.perform step).2

theorem perform_pop (session : StackSession) :
    session.perform .pop = (false, session) ∨
      ∃ later, session.stack.pop? = some later ∧
        session.perform .pop = (true, { session with stack := later }) := by
  cases popped : session.stack.pop? with
  | none => exact .inl (by simp [perform, popped])
  | some later => exact .inr ⟨later, rfl, by simp [perform, popped]⟩

theorem perform_popPush (session : StackSession) :
    session.perform .popPush = (false, session) ∨
      ∃ later, session.stack.pop? = some later ∧
        session.perform .popPush = (true, { session with stack := later.push }) := by
  cases popped : session.stack.pop? with
  | none => exact .inl (by simp [perform, StateStack.popPush?, popped])
  | some later => exact .inr ⟨later, rfl, by simp [perform, StateStack.popPush?, popped]⟩

theorem perform_exit (session : StackSession) (number : Nat) :
    session.perform (.exit number) = (false, session) ∨
      ∃ scope, session.perform (.exit number) =
        (true, { session with stack := session.stack.exit scope }) := by
  cases obtained : session.scopes[number]? with
  | none => exact .inl (by simp [perform, obtained])
  | some scope => exact .inr ⟨scope, by simp [perform, obtained]⟩

theorem perform_of_refused (refused : (session.perform step).1 = false) :
    (session.perform step).2 = session := by
  cases step with
  | push => cases refused
  | pop =>
      rcases perform_pop session with done | ⟨later, -, done⟩
      · rw [done]
      · rw [done] at refused
        cases refused
  | popPush =>
      rcases perform_popPush session with done | ⟨later, -, done⟩
      · rw [done]
      · rw [done] at refused
        cases refused
  | edit edit => cases refused
  | enter => cases refused
  | exit number =>
      rcases perform_exit session number with done | ⟨scope, done⟩
      · rw [done]
      · rw [done] at refused
        cases refused

theorem entries_of_pop {later : StateStack} (popped : stack.pop? = some later) :
    stack.entries = later.below.reverse ++ [later.top, stack.top] := by
  obtain ⟨-, -, below⟩ := StateStack.pop?_eq_some_iff.1 popped
  simp [StateStack.entries, below]

theorem entries_exit (scope : Scope) (stack : StateStack) :
    (stack.exit scope).entries = stack.entries.take (scope.below + 1) :=
  (congrArg IndexedStack.entries (IndexedStack.exit_indexed stack scope)).symm

theorem entries_push (stack : StateStack) :
    stack.push.entries = stack.below.reverse ++ [stack.top, stack.top] := by
  simp [StateStack.entries, StateStack.push]

theorem changes_perform (session : StackSession) (step : StackStep) :
    step.Changes session.stack.entries (session.perform step).2.stack.entries := by
  cases step with
  | push =>
      have pushed := entries_push session.stack
      exact pushed ▸ .push session.stack.below.reverse session.stack.top
  | pop =>
      rcases perform_pop session with done | ⟨later, popped, done⟩
      · rw [done]
        exact .popRefused session.stack.entries
      · rw [done, entries_of_pop popped]
        exact .pop later.below.reverse later.top session.stack.top
  | popPush =>
      rcases perform_popPush session with done | ⟨later, popped, done⟩
      · rw [done]
        exact .popPushRefused session.stack.entries
      · rw [done, entries_of_pop popped, entries_push]
        exact .popPush later.below.reverse later.top session.stack.top
  | edit edit => exact .edit session.stack.below.reverse session.stack.top edit
  | enter =>
      have pushed := entries_push session.stack
      exact pushed ▸ .enter session.stack.below.reverse session.stack.top
  | exit number =>
      rcases perform_exit session number with done | ⟨scope, done⟩
      · rw [done]
        simpa using StackStep.Changes.exit number _ [] session.stack.entries_ne_nil
      · have whole := List.take_append_drop (scope.below + 1) session.stack.entries
        rw [← entries_exit] at whole
        rw [done, ← whole]
        exact .exit number _ _ (session.stack.exit scope).entries_ne_nil

/-! ### Innermost first -/

/-- The entries on which the open scopes were entered lie one above the other at the bottom of the
stack, and the floor is at the innermost one. -/
def Encloses (base : DrawState) (scopes : List Scope) :
    List (List StackStep) → StateStack → Prop
  | [], stack => stack.floor = 0
  | before :: moments, stack =>
      let outer := ((start base).run before).stack
      scopes[StackStep.entered before]? = some outer.enter.1 ∧
        stack.Confined (outer.top :: outer.below) ∧ Encloses base scopes moments outer

variable {base : DrawState}

theorem Encloses.floor_lt_depth (encloses : Encloses base scopes moments stack) :
    stack.floor < stack.depth := by
  cases moments with
  | nil =>
      rw [Encloses] at encloses
      rw [encloses]
      exact Nat.succ_pos _
  | cons before moments =>
      obtain ⟨-, ⟨bottom, floor⟩, -⟩ := encloses
      rw [floor]
      exact Nat.lt_succ_of_le bottom.length_le

theorem Encloses.append (encloses : Encloses base scopes moments stack) (more : List Scope) :
    Encloses base (scopes ++ more) moments stack := by
  induction moments generalizing stack with
  | nil => exact encloses
  | cons before moments ih =>
      obtain ⟨obtained, confined, outer⟩ := encloses
      refine ⟨?_, confined, ih outer⟩
      rw [List.getElem?_append_left (List.getElem?_eq_some_iff.1 obtained).1, obtained]

/-- What happens in a scope leaves the floor and the entries up to it as they are. -/
theorem confined_perform (session : StackSession) (inner : step.isInner = true) :
    (session.perform step).2.stack.floor = session.stack.floor ∧
      ∀ kept, session.stack.Confined kept → (session.perform step).2.stack.Confined kept := by
  cases step with
  | push => exact ⟨rfl, fun kept confined => confined.change .push⟩
  | pop =>
      rcases perform_pop session with done | ⟨later, popped, done⟩
      · rw [done]
        exact ⟨rfl, fun kept confined => confined⟩
      · rw [done]
        exact ⟨(StateStack.pop?_eq_some_iff.1 popped).2.1,
          fun kept confined => confined.change (.pop popped)⟩
  | popPush =>
      rcases perform_popPush session with done | ⟨later, popped, done⟩
      · rw [done]
        exact ⟨rfl, fun kept confined => confined⟩
      · rw [done]
        exact ⟨(StateStack.pop?_eq_some_iff.1 popped).2.1,
          fun kept confined => (confined.change (.pop popped)).change .push⟩
  | edit edit => exact ⟨rfl, fun kept confined => ⟨confined.bottom, confined.floor⟩⟩
  | enter => cases inner
  | exit number => cases inner

theorem Encloses.perform (encloses : Encloses base scopes moments session.stack)
    (inner : step.isInner = true) :
    Encloses base scopes moments (session.perform step).2.stack := by
  obtain ⟨floor, keeps⟩ := confined_perform session inner
  cases moments with
  | nil => exact floor.trans encloses
  | cons before moments =>
      obtain ⟨obtained, confined, outer⟩ := encloses
      exact ⟨obtained, keeps _ confined, outer⟩

theorem scopes_perform_of_isInner (inner : step.isInner = true) :
    (session.perform step).2.scopes = session.scopes := by
  cases step <;> first | rfl | cases inner

theorem entered_concat (steps : List StackStep) (step : StackStep) :
    StackStep.entered (steps ++ [step]) =
      StackStep.entered steps + if step.isEnter then 1 else 0 :=
  countP_concat _ steps step

/-- **Leaving the innermost scope gives back the stack on which it was entered.** -/
theorem Encloses.exit {before : List StackStep}
    (encloses : Encloses base session.scopes (before :: moments) session.stack) :
    session.perform (.exit (StackStep.entered before)) =
      (true, { session with stack := ((start base).run before).stack }) := by
  obtain ⟨obtained, confined, -⟩ := encloses
  simp only [StackSession.perform, obtained, confined.exit]

theorem encloses_of_nested (base : DrawState) (nested : Nested steps moments) :
    let session := (start base).run steps
    session.scopes.length = StackStep.entered steps ∧
      Encloses base session.scopes moments session.stack := by
  induction nested with
  | start => exact ⟨rfl, rfl⟩
  | @inner steps moments step nested inner ih =>
      obtain ⟨counted, encloses⟩ := ih
      have other : step.isEnter = false := by
        cases step <;> first | rfl | cases inner
      simp only [run_concat, entered_concat, other, scopes_perform_of_isInner inner]
      exact ⟨counted, encloses.perform inner⟩
  | @enter steps moments nested ih =>
      obtain ⟨counted, encloses⟩ := ih
      simp only [run_concat, entered_concat, perform]
      refine ⟨by simp [counted, StackStep.isEnter], ?_, StateStack.confined_enter _,
        encloses.append _⟩
      rw [List.getElem?_append_right (Nat.le_of_eq counted), counted, Nat.sub_self]
      rfl
  | @exit steps before moments nested ih =>
      obtain ⟨counted, encloses⟩ := ih
      simp only [run_concat, entered_concat, encloses.exit]
      exact ⟨counted, encloses.2.2⟩

/-- **A stack survives scopes that are left in any order, and gives back what they were entered on
if they are left innermost first.** Let operations be performed on a stack with one entry, and let
scopes be left whenever and as often as one likes. Then every entry that is looked up by its
position is there, so there is a top at all times; an operation that answers no has changed nothing;
and entries go away from the top only, never the first one. If each scope is left before those
around it, the floor is at all times below the entries, and leaving a scope restores all entries and
the floor as they were at the moment when it was entered. -/
theorem scopes_left_in_any_order (base : DrawState) :
    (∀ steps,
      let session := (start base).run steps
      (start base).indexed.run? steps = some session.indexed ∧
        session.indexed.stack.top? = some session.stack.top ∧ session.stack.entries ≠ [] ∧
        (∀ step, (session.perform step).1 = false → (session.perform step).2 = session) ∧
        ∀ step : StackStep,
          step.Changes session.stack.entries (session.perform step).2.stack.entries) ∧
    ∀ steps moments, Nested steps moments →
      (∀ early, early <+: steps →
        ((start base).run early).stack.floor < ((start base).run early).stack.depth) ∧
      ∀ before rest, moments = before :: rest →
        before ++ [.enter] <+: steps ∧
          ((start base).run (steps ++ [.exit (StackStep.entered before)])).stack =
            ((start base).run before).stack := by
  refine ⟨fun steps => ?_, fun steps moments nested => ⟨fun early beginning => ?_, ?_⟩⟩
  · exact ⟨run?_indexed (start base) steps, IndexedStack.top?_indexed _,
      StateStack.entries_ne_nil _, fun step => perform_of_refused, changes_perform _⟩
  · obtain ⟨moments, nested⟩ := nested.of_prefix beginning
    exact (encloses_of_nested base nested).2.floor_lt_depth
  · rintro before rest rfl
    refine ⟨nested.entered_after before List.mem_cons_self, ?_⟩
    rw [run_concat, (encloses_of_nested base nested).2.exit]

/-- A scope in which more is popped than was pushed, and the top edited. -/
theorem scopes_left_in_any_order_of_unbalanced_scope :
    let steps : List StackStep :=
      [.push, .enter, .push, .pop, .pop,
        .edit fun state => { state with fill := .colour Colour.black }]
    Nested steps [[.push]] ∧
      ((start {}).run (steps ++ [.exit 0])).stack = ((start {}).run [.push]).stack := by
  intro steps
  have nested : Nested steps [[.push]] :=
    .inner (.inner (.inner (.inner (.enter (.inner .start rfl)) rfl) rfl) rfl) rfl
  have left := ((scopes_left_in_any_order {}).2 steps [[.push]] nested).2 [.push] [] rfl
  exact ⟨nested, left.2⟩

/-- If the inner one of two scopes is left last, the floor is no longer below the entries. -/
example (base : DrawState) :
    let session := (start base).run [.enter, .enter, .exit 0, .exit 1]
    session.stack.depth = 1 ∧ session.stack.floor = 1 :=
  ⟨rfl, rfl⟩

end StackSession

end ScenePlayer
