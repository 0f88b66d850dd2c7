import ScenePlayer.State.Stack

/-!
The stack as a list of entries that are found by their positions, first entry first. Nothing in such
a list says that there is a top: an operation that looks for one at the last position fails without
it, and a scope may leave as few entries as it likes. The stack of the replay is such a list with at
least one entry, and its scopes leave at least one; every operation by position finds its entry
there and does what the operation of the stack does (`IndexedStack.pop_indexed` and the others).
-/

namespace ScenePlayer

/-- A stack whose entries are found by position, first entry first. -/
structure IndexedStack where
  entries : List DrawState
  floor : Nat

/-- A number of entries to return to. -/
structure IndexedScope where
  base : Nat
  floor : Nat

namespace IndexedStack

/-- The entry at the last position, if there is one. -/
def top? (stack : IndexedStack) : Option DrawState := stack.entries[stack.entries.length - 1]?

def editTop? (edit : DrawState → DrawState) (stack : IndexedStack) : Option IndexedStack :=
  stack.top?.map fun top =>
    { stack with entries := stack.entries.set (stack.entries.length - 1) (edit top) }

def push? (stack : IndexedStack) : Option IndexedStack :=
  stack.top?.map fun top => { stack with entries := stack.entries ++ [top] }

/-- Drop the last entry, unless only the entry above the floor is left. -/
def pop (stack : IndexedStack) : Bool × IndexedStack :=
  if stack.entries.length ≤ stack.floor + 1 then (false, stack)
  else (true, { stack with entries := stack.entries.dropLast })

def popPush? (stack : IndexedStack) : Option (Bool × IndexedStack) :=
  match stack.pop with
  | (false, stack) => some (false, stack)
  | (true, stack) => stack.push?.map (true, ·)

def enter? (stack : IndexedStack) : Option (IndexedScope × IndexedStack) :=
  stack.push?.map fun pushed =>
    (⟨stack.entries.length, stack.floor⟩, { pushed with floor := stack.entries.length })

def exit (scope : IndexedScope) (stack : IndexedStack) : IndexedStack where
  entries := stack.entries.take scope.base
  floor := scope.floor

end IndexedStack

/-- A scope leaves the entry on which it was entered, and those below it. -/
def Scope.indexed (scope : Scope) : IndexedScope := ⟨scope.below + 1, scope.floor⟩

namespace StateStack

/-- The entries, first entry first. -/
def entries (stack : StateStack) : List DrawState := stack.below.reverse ++ [stack.top]

def indexed (stack : StateStack) : IndexedStack := ⟨stack.entries, stack.floor⟩

theorem entries_ne_nil (stack : StateStack) : stack.entries ≠ [] := by
  simp [entries]

/-- Dropping down to an entry takes the first ones, but one of them at least. -/
theorem entries_keep (count : Nat) (top : DrawState) (below : List DrawState) :
    (keep count top below).2.reverse ++ [(keep count top below).1] =
      (below.reverse ++ [top]).take (count + 1) := by
  induction below generalizing top with
  | nil => simp [keep]
  | cons saved below ih =>
      rw [keep]
      have length : (saved :: below).reverse.length = below.length + 1 := by simp
      split
      · rename_i few
        refine (List.take_of_length_le ?_).symm
        rw [List.length_append, length, List.length_singleton]
        omega
      · rename_i enough
        rw [ih, ← List.reverse_cons]
        exact (List.take_append_of_le_length (by omega)).symm

end StateStack

namespace IndexedStack

variable (stack : StateStack)

theorem top?_indexed : stack.indexed.top? = some stack.top := by
  simp [top?, StateStack.indexed, StateStack.entries]

theorem editTop?_indexed (edit : DrawState → DrawState) :
    stack.indexed.editTop? edit = some (stack.editTop edit).indexed := by
  rw [editTop?, top?_indexed]
  simp [StateStack.indexed, StateStack.entries, StateStack.editTop]

theorem push?_indexed : stack.indexed.push? = some stack.push.indexed := by
  rw [push?, top?_indexed]
  simp [StateStack.indexed, StateStack.entries, StateStack.push]

theorem pop_indexed :
    stack.indexed.pop = (stack.pop?.isSome, (stack.pop?.getD stack).indexed) := by
  obtain ⟨top, below, floor⟩ := stack
  unfold pop StateStack.pop?
  cases below with
  | nil => simp [StateStack.indexed, StateStack.entries]
  | cons saved below =>
      have few : (saved :: below).reverse.length + 1 ≤ floor + 1 ↔ below.length < floor := by
        simp only [List.length_reverse, List.length_cons]
        omega
      simp only [StateStack.indexed, StateStack.entries, List.length_append, List.length_singleton,
        few]
      split
      · rfl
      · simp

theorem popPush?_indexed :
    stack.indexed.popPush? = some (stack.popPush?.isSome, (stack.popPush?.getD stack).indexed) := by
  rw [popPush?, pop_indexed, StateStack.popPush?]
  cases stack.pop? with
  | none => rfl
  | some later => simp [push?_indexed]

theorem enter?_indexed :
    stack.indexed.enter? = some (stack.enter.1.indexed, stack.enter.2.indexed) := by
  rw [enter?, push?_indexed]
  simp [StateStack.indexed, StateStack.entries, StateStack.enter, Scope.indexed, StateStack.push]

theorem exit_indexed (scope : Scope) :
    stack.indexed.exit scope.indexed = (stack.exit scope).indexed := by
  simp [IndexedStack.exit, StateStack.indexed, StateStack.entries, StateStack.exit, Scope.indexed,
    StateStack.entries_keep]

end IndexedStack

end ScenePlayer
