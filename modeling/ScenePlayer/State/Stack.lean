import ScenePlayer.State.DrawState

/-!
The stack of draw states. The top entry is the live state. A scope pins a floor:
pops inside it never remove the entry with which it started, so a sub-script
cannot unwind state that belongs to its caller, and leaving a scope drops
whatever was pushed in it.
-/

namespace ScenePlayer

/-- A stack of draw states; there is always a top. -/
structure StateStack where
  top : DrawState := {}
  /-- The entries below the top, nearest first. -/
  below : List DrawState := []
  /-- How many entries pops have to leave below the top. -/
  floor : Nat := 0
  deriving DecidableEq, Repr

/-- A position in a stack to return to. -/
structure Scope where
  /-- How many entries lay below the top. -/
  below : Nat
  floor : Nat
  deriving DecidableEq, Repr

namespace StateStack

/-- The number of entries. -/
def depth (stack : StateStack) : Nat := stack.below.length + 1

def editTop (edit : DrawState → DrawState) (stack : StateStack) : StateStack :=
  { stack with top := edit stack.top }

/-- Save the current state. -/
def push (stack : StateStack) : StateStack := { stack with below := stack.top :: stack.below }

/-- Return to the saved state, unless only entries of the floor are left. -/
def pop? (stack : StateStack) : Option StateStack :=
  match stack.below with
  | [] => none
  | saved :: below =>
      if below.length < stack.floor then none else some { stack with top := saved, below }

/-- Return to the saved state and keep it saved. -/
def popPush? (stack : StateStack) : Option StateStack := stack.pop?.map push

/-- Drop entries from the top until `count` entries are left below it; nothing
happens if there are no more. -/
def keep (count : Nat) : DrawState → List DrawState → DrawState × List DrawState
  | top, [] => (top, [])
  | top, saved :: below =>
      if below.length < count then (top, saved :: below) else keep count saved below

/-- Save the current state and make it the floor. -/
def enter (stack : StateStack) : Scope × StateStack :=
  (⟨stack.below.length, stack.floor⟩, { stack.push with floor := stack.below.length + 1 })

/-- Drop everything pushed since the scope was entered and restore its floor. -/
def exit (scope : Scope) (stack : StateStack) : StateStack :=
  let (top, below) := keep scope.below stack.top stack.below
  { top, below, floor := scope.floor }

end StateStack

end ScenePlayer
