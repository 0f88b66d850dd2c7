import ScenePlayer.Canvas.Recording
import ScenePlayer.Proofs.Canvas.View
import ScenePlayer.Proofs.Replay.Change
import ScenePlayer.Proofs.Script.Edits
import ScenePlayer.Proofs.State.Clip

/-!
Clips of a replay. Whatever is saved, returned to or left, a new region restricts a clip
that was there before and takes the next number. The clips so far therefore have a
lineage (`Lineage`), in which numbers grow from the outside inwards and each number
stands for one region with its ancestors. Every clip that a replay keeps in its stack or
hands to the canvas is in it (`Pass.Traced`).
-/

namespace ScenePlayer

variable {σ S : Type}

/-! ### Lineages -/

/-- The clips so far, latest first: at first none but the one without regions, and then
always one region more than in an earlier clip, numbered in turn. -/
inductive Lineage : List Clip → Prop where
  | start : Lineage [[]]
  | add {clips : List Clip} {node : ClipNode} {outer : Clip} (earlier : Lineage clips)
      (known : outer ∈ clips) (numbered : node.id = clips.length) :
      Lineage ((node :: outer) :: clips)

namespace Lineage

variable {clips : List Clip} {node other : ClipNode} {outer further : Clip}

theorem id_lt (lineage : Lineage clips) (member : node :: outer ∈ clips) :
    node.id < clips.length := by
  induction lineage with
  | start => simp at member
  | add earlier known numbered ih =>
      rw [List.length_cons]
      rcases List.mem_cons.1 member with latest | before
      · cases latest
        omega
      · exact Nat.lt_succ_of_lt (ih before)

/-- With a clip come the clips of its ancestors. -/
theorem mem_of_suffix (lineage : Lineage clips) {clip part : Clip} (member : clip ∈ clips)
    (behind : part <:+ clip) : part ∈ clips := by
  induction lineage generalizing clip with
  | start =>
      rw [List.mem_singleton] at member ⊢
      rw [member] at behind
      exact List.suffix_nil.1 behind
  | add earlier known numbered ih =>
      rcases List.mem_cons.1 member with rfl | before
      · rcases List.suffix_cons_iff.1 behind with rfl | ancestor
        · exact List.mem_cons_self
        · exact List.mem_cons_of_mem _ (ih known ancestor)
      · exact List.mem_cons_of_mem _ (ih before behind)

/-- A number is given out once. -/
theorem eq_of_id (lineage : Lineage clips) (left : node :: outer ∈ clips)
    (right : other :: further ∈ clips) (same : node.id = other.id) :
    node :: outer = other :: further := by
  induction lineage with
  | start => simp at left
  | add earlier known numbered ih =>
      rcases List.mem_cons.1 left with latest | before <;>
        rcases List.mem_cons.1 right with last | previous
      · rw [latest, last]
      · -- The latest number is larger than all before.
        cases latest
        have smaller := earlier.id_lt previous
        omega
      · cases last
        have smaller := earlier.id_lt before
        omega
      · exact ih before previous

theorem consistent (lineage : Lineage clips) : Clip.Consistent {clip | clip ∈ clips} := by
  rintro node other outer further ⟨left, leftMember, leftBehind⟩
    ⟨right, rightMember, rightBehind⟩ same
  have equal := lineage.eq_of_id (lineage.mem_of_suffix leftMember leftBehind)
    (lineage.mem_of_suffix rightMember rightBehind) same
  exact List.cons.inj equal

/-- Numbers grow from the outside inwards. -/
theorem increasing (lineage : Lineage clips) {clip : Clip} (member : clip ∈ clips) :
    (clip.reverse.map ClipNode.id).Pairwise (· < ·) := by
  induction lineage generalizing clip with
  | start =>
      rw [List.mem_singleton.1 member]
      exact .nil
  | @add clips node outer earlier known numbered ih =>
      rcases List.mem_cons.1 member with rfl | before
      · rw [List.reverse_cons, List.map_append, List.pairwise_append]
        refine ⟨ih known, List.pairwise_singleton .., ?_⟩
        simp only [List.mem_map, List.mem_reverse, List.map_cons, List.map_nil,
          List.mem_singleton]
        rintro _ ⟨ancestor, among, rfl⟩ _ rfl
        obtain ⟨inner, outermost, rfl⟩ := List.append_of_mem among
        have part := earlier.mem_of_suffix known (List.suffix_append inner _)
        rw [numbered]
        exact earlier.id_lt part
      · exact ih before

end Lineage

/-! ### Clips that are kept -/

namespace StateStack

/-- The clips of the states in a stack. -/
def clips (stack : StateStack) : List Clip := (stack.top :: stack.below).map DrawState.clip

theorem Change.clips_subset {stack later : StateStack} (change : stack.Change later) :
    later.clips ⊆ stack.clips := by
  cases change with
  | edit clip => simp [clips, editTop, clip]
  | push => simp [clips, StateStack.push]
  | pop popped =>
      unfold pop? at popped
      cases below : stack.below with
      | nil => simp [below] at popped
      | cons saved rest =>
          simp only [below] at popped
          split at popped
          · cases popped
          · cases popped
            simp [clips, below]

theorem clips_enter_subset (stack : StateStack) : stack.enter.2.clips ⊆ stack.clips := by
  simp [clips, enter, push]

/-- Dropping entries leaves none that was not there. -/
theorem keep_suffix (count : Nat) (top : DrawState) (below : List DrawState) :
    (keep count top below).1 :: (keep count top below).2 <:+ top :: below := by
  induction below generalizing top with
  | nil => exact List.suffix_rfl
  | cons saved below ih =>
      unfold keep
      split
      · exact List.suffix_rfl
      · exact (ih saved).trans (List.suffix_cons ..)

theorem clips_exit_subset (scope : Scope) (stack : StateStack) :
    (stack.exit scope).clips ⊆ stack.clips :=
  List.map_subset _ (keep_suffix scope.below stack.top stack.below).subset

end StateStack

/-- The clips that a moment shows: those in the stack and those handed to the canvas. -/
def Moment.clips : Moment (σ × List Clip) S → List Clip
  | .start _ surface => surface.2
  | .walking _ pass => pass.stack.clips ++ pass.surface.2
  | .ended answer => answer.2.2.2

/-- The clips so far are known, and so many identifiers are given out. -/
structure Pass.Traced (known : List Clip) (pass : Pass (σ × List Clip) S) : Prop where
  lineage : Lineage known
  count : known.length = pass.clipId + 1
  kept : pass.stack.clips ⊆ known
  handed : pass.surface.2 ⊆ known

/-- A draw hands on the clip of the place where it goes, and nothing else does. -/
theorem Canvas.Steps.handed {canvas : Canvas σ S} {place : Placement}
    {surface later : σ × List Clip} (steps : canvas.noting.Steps place surface later) :
    later.2 ⊆ place.clip :: surface.2 := by
  induction steps with
  | refl => exact List.subset_cons_self ..
  | tail _ step ih =>
      have drawn := List.cons_subset.2 ⟨List.mem_cons_self, ih⟩
      cases step with
      | buildShader source => exact ih
      | fill outline ink => exact drawn
      | stroke outline ink style => exact drawn
      | text run ink => exact drawn
      | sprite picture sprite => exact drawn

namespace Pass.Traced

variable {known : List Clip} {canvas : Canvas σ S} {pass after : Pass (σ × List Clip) S}

/-- Changes of the stack, of path, report or active scripts give rise to no clip. -/
theorem of_subset (traced : pass.Traced known) (count : after.clipId = pass.clipId)
    (kept : after.stack.clips ⊆ pass.stack.clips) (handed : after.surface = pass.surface) :
    after.Traced known where
  lineage := traced.lineage
  count := by rw [count, traced.count]
  kept := List.Subset.trans kept traced.kept
  handed := by rw [handed]; exact traced.handed

theorem change (traced : pass.Traced known) (change : pass.Change canvas.noting after) :
    ∃ later, known <:+ later ∧ after.Traced later := by
  cases change with
  | draw steps shaders number =>
      refine ⟨known, List.suffix_rfl, traced.lineage, traced.count, traced.kept, ?_⟩
      have top : pass.stack.top.clip ∈ known := traced.kept List.mem_cons_self
      exact List.Subset.trans steps.handed (List.cons_subset.2 ⟨top, traced.handed⟩)
  | warn other => exact ⟨known, List.suffix_rfl, traced.of_subset rfl (fun _ => id) rfl⟩
  | stack change =>
      exact ⟨known, List.suffix_rfl, traced.of_subset rfl change.clips_subset rfl⟩
  | pen pen => exact ⟨known, List.suffix_rfl, traced.of_subset rfl (fun _ => id) rfl⟩
  | clip outline mode =>
      have top : pass.stack.top.clip ∈ known := traced.kept List.mem_cons_self
      let node : ClipNode := ⟨pass.clipId + 1, outline, pass.stack.top.transform, mode⟩
      have numbered : node.id = known.length := traced.count.symm
      refine ⟨(node :: pass.stack.top.clip) :: known, List.suffix_cons .., ⟨?_, ?_, ?_, ?_⟩⟩
      · exact traced.lineage.add top numbered
      · rw [List.length_cons, traced.count]
        rfl
      · have below := (List.cons_subset.1 traced.kept).2
        exact List.cons_subset.2 ⟨List.mem_cons_self, List.subset_cons_of_subset _ below⟩
      · exact List.subset_cons_of_subset _ traced.handed

end Pass.Traced

/-! ### A replay -/

/-- The clips that a moment shows have a lineage, which the clips so far are part of. -/
def Moment.Traced (known : List Clip) : Moment (σ × List Clip) S → Prop
  | .start shaders surface => Pass.Traced known { surface, shaders }
  | .walking _ pass => pass.Traced known
  | .ended answer => Lineage known ∧ answer.2.2.2 ⊆ known

namespace Moment.Traced

variable {known : List Clip} {stage : Stage σ S} {root : String} {clear : Colour}
  {moment later : Moment (σ × List Clip) S}

theorem lineage (traced : moment.Traced known) : Lineage known := by
  cases moment with
  | start shaders surface => exact Pass.Traced.lineage traced
  | walking activations pass => exact Pass.Traced.lineage traced
  | ended answer => exact traced.1

theorem clips_subset (traced : moment.Traced known) : moment.clips ⊆ known := by
  cases moment with
  | start shaders surface => exact Pass.Traced.handed traced
  | walking activations pass =>
      exact List.append_subset.2 ⟨Pass.Traced.kept traced, Pass.Traced.handed traced⟩
  | ended answer => exact traced.2

theorem follow {pass : Pass (σ × List Clip) S} (traced : pass.Traced known)
    (caller target : String) (activations : List Activation) :
    (stage.noting.follow caller target activations pass).Traced known := by
  unfold Stage.follow
  split
  · exact traced.of_subset rfl (fun _ => id) rfl
  · split
    · exact traced.of_subset rfl (fun _ => id) rfl
    · cases stage.noting.scripts.find? target with
      | none => exact traced.of_subset rfl (fun _ => id) rfl
      | some script => exact traced.of_subset rfl pass.stack.clips_enter_subset rfl

/-- One step adds to the lineage at most. -/
theorem next (traced : moment.Traced known)
    (step : stage.noting.next root clear moment = some later) :
    ∃ more, known <:+ more ∧ later.Traced more := by
  cases moment with
  | ended answer => cases step
  | start shaders surface =>
      have traced : Pass.Traced known { surface, shaders } := traced
      refine ⟨known, List.suffix_rfl, ?_⟩
      simp only [Stage.next] at step
      split at step
      · cases step
        exact ⟨traced.lineage, traced.handed⟩
      · split at step <;> rename_i opened opens <;> cases step <;>
          have same : surface.2 = opened.2 := congrArg (fun answer => answer.2.2) opens
        · exact ⟨traced.lineage, same ▸ traced.handed⟩
        · exact ⟨traced.lineage, traced.count, traced.kept, same ▸ traced.handed⟩
  | walking activations pass =>
      have traced : pass.Traced known := traced
      cases activations with
      | nil =>
          refine ⟨known, List.suffix_rfl, ?_⟩
          simp only [Stage.next] at step
          split at step <;> rename_i closed closes <;> cases step <;>
            have same : pass.surface.2 = closed.2 := congrArg (fun answer => answer.2.2) closes
          · exact ⟨traced.lineage, same ▸ traced.handed⟩
          · exact ⟨traced.lineage, same ▸ traced.handed⟩
      | cons innermost outer =>
          obtain ⟨script, _ | ⟨instruction, rest⟩, caller⟩ := innermost
          · cases step
            refine ⟨known, List.suffix_rfl, ?_⟩
            cases caller with
            | none => exact traced.of_subset rfl (fun _ => id) rfl
            | some caller =>
                exact traced.of_subset rfl (StateStack.clips_exit_subset caller.2 pass.stack) rfl
          · simp only [Stage.next] at step
            split at step <;> rename_i refers <;> cases step
            · refine stage.noting.perform_of_change
                (P := fun after => ∃ more, known <:+ more ∧ after.Traced more) ?_ refers none
                script.id ⟨known, List.suffix_rfl, traced⟩
              rintro before after ⟨more, older, traced⟩ change
              obtain ⟨most, old, traced⟩ := traced.change change
              exact ⟨most, older.trans old, traced⟩
            · exact ⟨known, List.suffix_rfl, follow traced script.id _ _⟩

/-- What a whole run preserves. -/
theorem after (traced : moment.Traced known) (steps : Nat) :
    ∃ more, known <:+ more ∧ (stage.noting.after root clear steps moment).Traced more := by
  refine Stage.after_of_next (P := fun moment => ∃ more, known <:+ more ∧ moment.Traced more) ?_
    steps ⟨known, List.suffix_rfl, traced⟩
  rintro before later ⟨more, older, traced⟩ step
  obtain ⟨most, old, traced⟩ := traced.next step
  exact ⟨most, older.trans old, traced⟩

/-- The clips of two moments have one lineage, that of the later moment. -/
theorem after_both (traced : moment.Traced known) {first second : Nat}
    (earlier : first ≤ second) :
    ∃ more, Lineage more ∧ (stage.noting.after root clear first moment).clips ⊆ more ∧
      (stage.noting.after root clear second moment).clips ⊆ more := by
  obtain ⟨rest, rfl⟩ := Nat.exists_eq_add_of_le earlier
  rw [Stage.after_add]
  have middle : ∃ more, known <:+ more ∧ (stage.noting.after root clear first moment).Traced more :=
    traced.after first
  obtain ⟨more, -, before⟩ := middle
  obtain ⟨most, older, later⟩ := before.after rest
  exact ⟨most, later.lineage, List.Subset.trans before.clips_subset older.subset,
    later.clips_subset⟩

theorem start (shaders : ShaderCache S) (surface : σ) :
    (Moment.start shaders (surface, [])).Traced [[]] where
  lineage := .start
  count := rfl
  kept := List.Subset.refl _
  handed := List.nil_subset _

end Moment.Traced

namespace Stage

/-- The clips that a replay shows at any moment. -/
def clipsSeen (stage : Stage σ S) (root : String) (clear : Colour)
    (shaders : ShaderCache S) (surface : σ) : Set Clip :=
  {clip | ∃ steps,
    clip ∈ (stage.noting.after root clear steps (.start shaders (surface, []))).clips}

/-- **Clip identifiers are good for a whole replay.** Whatever the scripts, the canvas and
the shader cache: noting the clips that draws are handed changes nothing else, and each
of them is among the clips seen, at any moment, in the stack or by the canvas. In each of
these the identifiers grow from the outermost region inwards, and in all of them together
an identifier stands for one region with the same ancestors. -/
theorem run_numbers_clips (stage : Stage σ S) (root : String) (clear : Colour)
    (shaders : ShaderCache S) (surface : σ) :
    let seen := stage.clipsSeen root clear shaders surface
    let (answer, cache, drawn, handed) := stage.noting.run root clear shaders (surface, [])
    stage.run root clear shaders surface = (answer, cache, drawn) ∧
      (∀ clip ∈ handed, clip ∈ seen) ∧
      (∀ clip ∈ seen, (clip.reverse.map ClipNode.id).Pairwise (· < ·)) ∧
      Clip.Consistent seen := by
  intro seen
  have start := Moment.Traced.start shaders surface
  refine ⟨run_view stage.canvas.shows_noting root clear shaders (surface, []), ?_, ?_, ?_⟩
  · intro clip handed
    have leads : stage.noting.Leads root clear (.start shaders (surface, []))
        (.ended (stage.noting.run root clear shaders (surface, []))) := leads_run _ _
    obtain ⟨steps, ended⟩ := leads
    refine ⟨steps, ?_⟩
    rw [ended]
    exact handed
  · rintro clip ⟨steps, member⟩
    obtain ⟨known, -, traced⟩ := start.after steps
    exact traced.lineage.increasing (traced.clips_subset member)
  · rintro node other outer further ⟨left, ⟨first, member⟩, behind⟩
      ⟨right, ⟨second, among⟩, rear⟩ same
    rcases Nat.le_total first second with earlier | later
    · obtain ⟨known, lineage, leftKnown, rightKnown⟩ := start.after_both earlier
      exact lineage.consistent ⟨left, leftKnown member, behind⟩ ⟨right, rightKnown among, rear⟩ same
    · obtain ⟨known, lineage, rightKnown, leftKnown⟩ := start.after_both later
      exact lineage.consistent ⟨left, leftKnown member, behind⟩ ⟨right, rightKnown among, rear⟩ same

/-- Two regions are gone when the last draw is made: one of a script that is left and one
that a pop undoes. Their numbers are not used again. -/
example :
    let scripts := ScriptStore.edited
      [.put "main" [.scissor 4 4, .drawScript "leaf", .pushState, .scissor 2 2, .popState,
        .scissor 1 1, .draw (.rect 8 8) ⟨1⟩],
        .put "leaf" [.scissor 3 3, .draw (.rect 8 8) ⟨1⟩]]
    let stage : Stage Recording Nat :=
      { canvas := Recording.canvas, scripts, assets := {}, depthLimit := 64 }
    let (_, _, _, handed) := stage.noting.run "main" Colour.black {} ({}, [])
    handed.map (·.map ClipNode.id) = [[4, 1], [2, 1]] := by
  rfl

end Stage

end ScenePlayer
