/-!
The dirty flag between those who change a scene and the frame loop. Any number
of marks before a frame collapse into one redraw. Marking and taking consist of
two atomic steps each; a mark counts before it raises the flag, so a take that
sees the flag also sees the event.
-/

namespace ScenePlayer

/-- Why a scene needs a redraw. -/
inductive DirtyReason where
  | scriptChanged
  | scriptDeleted
  | sceneReset
  | clearColour
  | assetChanged
  | requested
  | retryFailedFrame
  deriving DecidableEq, Repr

def DirtyReason.text : DirtyReason → String
  | .scriptChanged => "script changed"
  | .scriptDeleted => "script deleted"
  | .sceneReset => "scene reset"
  | .clearColour => "clear colour changed"
  | .assetChanged => "asset changed"
  | .requested => "redraw requested"
  | .retryFailedFrame => "retrying failed frame"

structure DirtyFlag where
  dirty : Bool := false
  /-- Events counted since the last harvest. -/
  pending : Nat := 0
  deriving DecidableEq, Repr

namespace DirtyFlag

/-- First step of a mark. -/
def count (flag : DirtyFlag) : DirtyFlag := { flag with pending := flag.pending + 1 }

/-- Second step of a mark. -/
def raise (flag : DirtyFlag) : DirtyFlag := { flag with dirty := true }

/-- First step of a take: the answer is whether the flag was up. -/
def lower (flag : DirtyFlag) : Bool × DirtyFlag := (flag.dirty, { flag with dirty := false })

/-- Second step of a take whose first step found the flag up. -/
def harvest (flag : DirtyFlag) : Nat × DirtyFlag := (flag.pending, { flag with pending := 0 })

/-- Count an event and raise the flag. -/
def mark (flag : DirtyFlag) : DirtyFlag := flag.count.raise

/-- Lower the flag. The answer is the number of events since the last take, or
nothing if the flag was down. -/
def take (flag : DirtyFlag) : Option Nat × DirtyFlag :=
  match flag.lower with
  | (false, after) => (none, after)
  | (true, after) =>
      let (events, after) := after.harvest
      (some events, after)

theorem take_of_clean {flag : DirtyFlag} (clean : flag.dirty = false) :
    flag.take = (none, flag) := by
  obtain ⟨dirty, pending⟩ := flag
  cases clean
  rfl

theorem take_of_dirty {flag : DirtyFlag} (dirty : flag.dirty = true) :
    flag.take = (some flag.pending, {}) := by
  obtain ⟨dirty, pending⟩ := flag
  cases dirty
  rfl

end DirtyFlag

end ScenePlayer
