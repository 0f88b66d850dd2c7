import ScenePlayer.Canvas.Basic
import ScenePlayer.State.Stack

/-!
Clips without their identifiers. What a clip restricts is in the outlines, transforms
and modes of its regions; the identifiers only tell under which number a mask may be
kept. No operation on states or stacks depends on them, so forgetting the identifiers
before an operation or after it comes to the same (`StateStack.unnumbered_pop?` and
the others).
-/

namespace ScenePlayer

/-- The regions of a clip, with no identifiers to tell them apart. -/
def Clip.unnumbered (clip : Clip) : Clip := clip.map fun node => { node with id := 0 }

def Placement.unnumbered (place : Placement) : Placement :=
  { place with clip := place.clip.unnumbered }

namespace DrawState

def unnumbered (state : DrawState) : DrawState := { state with clip := state.clip.unnumbered }

theorem unnumbered_setPaint (slot : PaintSlot) (paint : Paint) (state : DrawState) :
    (state.setPaint slot paint).unnumbered = state.unnumbered.setPaint slot paint := by
  cases slot <;> rfl

theorem unnumbered_addClip (id : Nat) (outline : Option Outline) (mode : ClipMode)
    (state : DrawState) :
    (state.addClip id outline mode).unnumbered = state.unnumbered.addClip 0 outline mode := rfl

end DrawState

namespace StateStack

def unnumbered (stack : StateStack) : StateStack :=
  { stack with top := stack.top.unnumbered, below := stack.below.map DrawState.unnumbered }

theorem unnumbered_push (stack : StateStack) : stack.push.unnumbered = stack.unnumbered.push := rfl

theorem unnumbered_pop? (stack : StateStack) :
    stack.pop?.map unnumbered = stack.unnumbered.pop? := by
  obtain ⟨top, below, floor⟩ := stack
  cases below with
  | nil => rfl
  | cons saved rest =>
      simp only [pop?, unnumbered, List.map_cons, List.length_map]
      split <;> rfl

theorem unnumbered_popPush? (stack : StateStack) :
    stack.popPush?.map unnumbered = stack.unnumbered.popPush? := by
  simp only [popPush?, ← unnumbered_pop?, Option.map_map]
  rfl

theorem unnumbered_enter (stack : StateStack) :
    stack.unnumbered.enter = (stack.enter.1, stack.enter.2.unnumbered) := by
  simp [enter, unnumbered, push]

theorem keep_map_unnumbered (count : Nat) (top : DrawState) (below : List DrawState) :
    keep count top.unnumbered (below.map DrawState.unnumbered) =
      ((keep count top below).1.unnumbered, (keep count top below).2.map DrawState.unnumbered) := by
  induction below generalizing top with
  | nil => rfl
  | cons saved rest ih =>
      simp only [keep, List.map_cons, List.length_map]
      split
      · rfl
      · exact ih saved

theorem unnumbered_exit (scope : Scope) (stack : StateStack) :
    (stack.exit scope).unnumbered = stack.unnumbered.exit scope := by
  simp only [exit, unnumbered, keep_map_unnumbered]

end StateStack

end ScenePlayer
