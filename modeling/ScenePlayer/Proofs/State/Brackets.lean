import ScenePlayer.State.Stack

/-!
How many states a stack has saved. Whether there is something to pop is decided by how many
entries lie above the floor (`StateStack.Saves`). A bracket that is opened by a push keeps the
stack that it was opened on at the bottom (`StateStack.Opened`): so long as no more is popped in
it than was pushed in it, the last pop gives that stack back (`StateStack.Opened.close`).
-/

namespace ScenePlayer

namespace StateStack

variable {outer stack later : StateStack} {count : Nat}

theorem pop?_eq_none_iff : stack.pop? = none ↔ stack.below.length ≤ stack.floor := by
  unfold pop?
  cases stack.below with
  | nil => simp
  | cons saved below =>
      dsimp only
      split <;> simp <;> omega

theorem pop?_eq_some_iff :
    stack.pop? = some later ↔
      stack.floor < stack.below.length ∧ later.floor = stack.floor ∧
        stack.below = later.top :: later.below := by
  obtain ⟨top, below, floor⟩ := stack
  obtain ⟨laterTop, laterBelow, laterFloor⟩ := later
  unfold pop?
  cases below with
  | nil => simp
  | cons saved below =>
      dsimp only
      split
      · rename_i few
        refine iff_of_false nofun fun ⟨above, _⟩ => ?_
        rw [List.length_cons] at above
        omega
      · rename_i enough
        have above : floor < (saved :: below).length := by
          rw [List.length_cons]
          omega
        constructor
        · rintro ⟨⟩
          exact ⟨above, rfl, rfl⟩
        · rintro ⟨-, rfl, ⟨⟩⟩
          rfl

theorem popPush?_eq_none_iff : stack.popPush? = none ↔ stack.below.length ≤ stack.floor :=
  Option.map_eq_none_iff.trans pop?_eq_none_iff

/-! ### Above the floor -/

/-- So many states are saved above the floor. -/
def Saves (count : Nat) (stack : StateStack) : Prop := stack.below.length = stack.floor + count

theorem Saves.push (saves : stack.Saves count) : stack.push.Saves (count + 1) :=
  congrArg (· + 1) saves

theorem Saves.pop (saves : stack.Saves count) (popped : stack.pop? = some later) :
    later.floor = stack.floor ∧ later.Saves (count - 1) := by
  obtain ⟨above, floor, below⟩ := pop?_eq_some_iff.1 popped
  refine ⟨floor, ?_⟩
  rw [Saves, below, List.length_cons] at saves
  rw [below, List.length_cons] at above
  rw [Saves, floor]
  omega

theorem Saves.popPush (saves : stack.Saves count) (popped : stack.popPush? = some later) :
    later.floor = stack.floor ∧ later.Saves count := by
  obtain ⟨reached, found, rfl⟩ := Option.map_eq_some_iff.1 popped
  obtain ⟨-, floor, below⟩ := pop?_eq_some_iff.1 found
  refine ⟨floor, ?_⟩
  change (reached.top :: reached.below).length = reached.floor + count
  rw [← below, floor]
  exact saves

theorem Saves.le_floor_iff (saves : stack.Saves count) :
    stack.below.length ≤ stack.floor ↔ count = 0 := by
  rw [Saves] at saves
  omega

theorem length_keep (count : Nat) (top : DrawState) (below : List DrawState) :
    (keep count top below).2.length = min count below.length := by
  induction below generalizing top with
  | nil => simp [keep]
  | cons saved below ih =>
      rw [keep]
      split
      · simp only [List.length_cons]
        omega
      · rw [ih, List.length_cons]
        omega

/-! ### Within a bracket -/

/-- In a bracket opened on a stack, so many states have been saved on top of its own. -/
structure Opened (outer : StateStack) (count : Nat) (inner : StateStack) : Prop where
  floor : inner.floor = outer.floor
  saved : ∃ own : List DrawState, own.length = count ∧
    inner.below = own ++ outer.top :: outer.below

theorem opened_push (outer : StateStack) : outer.Opened 0 outer.push := ⟨rfl, [], rfl, rfl⟩

variable {inner : StateStack}

theorem Opened.push (opened : outer.Opened count inner) : outer.Opened (count + 1) inner.push := by
  obtain ⟨floor, own, length, below⟩ := opened
  exact ⟨floor, inner.top :: own, congrArg (· + 1) length, congrArg (inner.top :: ·) below⟩

/-- A pop in the bracket returns to a state that was saved in it. -/
theorem Opened.pop (opened : outer.Opened (count + 1) inner) (popped : inner.pop? = some later) :
    outer.Opened count later := by
  obtain ⟨-, floor, below⟩ := pop?_eq_some_iff.1 popped
  obtain ⟨first, own, length, saved⟩ := opened
  obtain ⟨top, own, rfl⟩ := List.exists_cons_of_length_eq_add_one length
  rw [below, List.cons_append] at saved
  exact ⟨floor.trans first, own, Nat.succ.inj length, (List.cons.inj saved).2⟩

theorem Opened.popPush (opened : outer.Opened count inner)
    (popped : inner.popPush? = some later) : outer.Opened count later := by
  obtain ⟨reached, found, rfl⟩ := Option.map_eq_some_iff.1 popped
  obtain ⟨-, floor, below⟩ := pop?_eq_some_iff.1 found
  have saved := opened.saved
  rw [below] at saved
  exact ⟨floor.trans opened.floor, saved⟩

/-- The state on which the bracket was opened can always be returned to. -/
theorem Opened.above (opened : outer.Opened count inner)
    (proper : outer.floor ≤ outer.below.length) : inner.floor < inner.below.length := by
  obtain ⟨floor, own, length, below⟩ := opened
  rw [floor, below, List.length_append, List.length_cons]
  omega

/-- As long as something that was saved in the bracket is left, pops in it do not even return to
the state on which it was opened. -/
theorem Opened.deeper (opened : outer.Opened count inner) (some : count ≠ 0) :
    outer.below.length + 1 < inner.below.length := by
  obtain ⟨-, own, length, below⟩ := opened
  rw [below, List.length_append, List.length_cons]
  omega

/-- The last pop gives back the stack on which the bracket was opened. -/
theorem Opened.close (opened : outer.Opened 0 inner)
    (proper : outer.floor ≤ outer.below.length) : inner.pop? = some outer := by
  have above := opened.above proper
  obtain ⟨floor, own, length, below⟩ := opened
  obtain rfl := List.eq_nil_of_length_eq_zero length
  exact pop?_eq_some_iff.2 ⟨above, floor.symm, below⟩

end StateStack

end ScenePlayer
