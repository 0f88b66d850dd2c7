import ScenePlayer.State.Stack

/-!
Stacks inside a scope. The entries that a scope was entered on stay at the bottom
of the stack, whatever is edited, pushed and popped on top of them
(`Confined.change`), so leaving the scope gives back the stack that it was entered
with, every entry and the floor (`Confined.exit`).
-/

namespace ScenePlayer

namespace StateStack

/-- One change of a stack: its top is edited, but not its clip, or a state is saved or
returned to. -/
inductive Change (stack : StateStack) : StateStack → Prop where
  | edit {edit : DrawState → DrawState} (clip : (edit stack.top).clip = stack.top.clip) :
      Change stack (stack.editTop edit)
  | push : Change stack stack.push
  | pop {later : StateStack} (popped : stack.pop? = some later) : Change stack later

/-- The entries `kept` lie at the bottom, and they are the floor. -/
structure Confined (kept : List DrawState) (stack : StateStack) : Prop where
  bottom : kept <:+ stack.below
  floor : stack.floor = kept.length

/-- A scope keeps all the entries of the stack that it is entered on. -/
theorem confined_enter (stack : StateStack) :
    stack.enter.2.Confined (stack.top :: stack.below) where
  bottom := List.suffix_rfl
  floor := rfl

theorem Confined.change {kept : List DrawState} {stack later : StateStack}
    (confined : stack.Confined kept) (change : stack.Change later) : later.Confined kept := by
  obtain ⟨bottom, floor⟩ := confined
  cases change with
  | edit clip => exact ⟨bottom, floor⟩
  | push => exact ⟨bottom.trans (List.suffix_cons _ _), floor⟩
  | pop popped =>
      unfold pop? at popped
      cases below : stack.below with
      | nil => simp [below] at popped
      | cons saved rest =>
          simp only [below] at popped bottom
          split at popped
          · cases popped
          · rename_i above
            cases popped
            refine ⟨?_, floor⟩
            -- The pop left as many entries as the floor has, so it took none of them.
            rcases List.suffix_cons_iff.1 bottom with all | inner
            · rw [floor, all, List.length_cons] at above
              omega
            · exact inner

theorem keep_length (top : DrawState) (below : List DrawState) :
    keep below.length top below = (top, below) := by
  cases below with
  | nil => rfl
  | cons saved rest => simp [keep]

/-- Dropping down to an entry leaves it on top of the entries that lie below it. -/
theorem keep_of_suffix {kept : DrawState} {rest below : List DrawState}
    (suffix : kept :: rest <:+ below) (top : DrawState) :
    keep rest.length top below = (kept, rest) := by
  induction below generalizing top with
  | nil => simp at suffix
  | cons saved below ih =>
      rcases List.suffix_cons_iff.1 suffix with all | inner
      · cases all
        simp only [keep, Nat.lt_irrefl, if_false]
        exact keep_length kept rest
      · have longer : rest.length < below.length := inner.length_le
        simp only [keep, Nat.not_lt_of_lt longer, if_false]
        exact ih inner saved

/-- Leaving a scope undoes all that happened in it. -/
theorem Confined.exit {stack inner : StateStack}
    (confined : inner.Confined (stack.top :: stack.below)) :
    inner.exit stack.enter.1 = stack := by
  have kept : keep stack.below.length inner.top inner.below = (stack.top, stack.below) :=
    keep_of_suffix confined.bottom inner.top
  simp only [StateStack.exit, enter, kept]

end StateStack

end ScenePlayer
