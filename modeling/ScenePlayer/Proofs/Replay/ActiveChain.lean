import ScenePlayer.Canvas.Recording
import ScenePlayer.Proofs.Replay.Moment
import ScenePlayer.Proofs.Script.Edits

/-!
The scripts active during a replay form a simple chain: it starts with the root,
holds no script twice and only stored ones, and is as long as the depth limit
and the number of stored scripts allow at most. This holds of every graph of
references, since it is preserved when a reference is followed and when a script
is left (`chained_next`); it is the invariant behind
`run_ends_along_simple_chains`.
-/

namespace ScenePlayer

variable {σ S : Type}

namespace Stage

/-- What the active scripts of a replay of `root` are like. -/
structure SimpleChain (stage : Stage σ S) (root : String) (active : List String) : Prop where
  starts : ∀ first ∈ active.head?, first = root
  distinct : active.Nodup
  stored : ∀ id ∈ active, stage.scripts.contains id = true
  bounded : active.length ≤ max stage.depthLimit 1

/-- The scripts being walked are the active ones, and these form a simple chain. -/
def Chained (stage : Stage σ S) (root : String) : Moment σ S → Prop
  | .walking activations pass =>
      pass.active = (activations.map (·.script.id)).reverse ∧ stage.SimpleChain root pass.active
  | _ => True

variable {stage : Stage σ S} {root : String} {clear : Colour}

theorem simpleChain_root (stored : stage.scripts.contains root = true) :
    stage.SimpleChain root [root] where
  starts := by simp
  distinct := by simp
  stored := by simpa using stored
  bounded := Nat.le_max_right _ _

/-- A stored script that is not active yet may follow while the limit allows it. -/
theorem SimpleChain.extend {active : List String} (chain : stage.SimpleChain root active)
    (nonempty : active ≠ []) {target : String} (fresh : target ∉ active)
    (room : active.length < stage.depthLimit) (stored : stage.scripts.contains target = true) :
    stage.SimpleChain root (active ++ [target]) where
  starts := by
    obtain ⟨first, rest, rfl⟩ := List.exists_cons_of_ne_nil nonempty
    exact chain.starts
  distinct := by
    refine List.nodup_append.2 ⟨chain.distinct, by simp, ?_⟩
    rintro id member _ (_ | ⟨_, ⟨⟩⟩) rfl
    exact fresh member
  stored := by
    intro id member
    rcases List.mem_append.1 member with earlier | last
    · exact chain.stored id earlier
    · rw [List.mem_singleton.1 last]
      exact stored
  bounded := by
    rw [List.length_append, List.length_singleton]
    omega

theorem SimpleChain.dropLast {active : List String} (chain : stage.SimpleChain root active) :
    stage.SimpleChain root active.dropLast where
  starts := by
    intro first member
    cases active with
    | nil => cases member
    | cons head tail =>
        cases tail with
        | nil => cases member
        | cons second tail => exact chain.starts first member
  distinct := chain.distinct.sublist (List.dropLast_sublist active)
  stored := fun id member => chain.stored id ((List.dropLast_sublist active).subset member)
  bounded := by
    have bound := chain.bounded
    rw [List.length_dropLast]
    omega

@[simp] theorem active_restoring (caller : Option (Pen × Scope)) (pass : Pass σ S) :
    (pass.restoring caller).active = pass.active := by
  cases caller <;> rfl

/-- References keep the chain simple, whether they are followed or refused. -/
theorem chained_follow (keyed : stage.scripts.Keyed) {activations : List Activation}
    {pass : Pass σ S} (nonempty : activations ≠ [])
    (linked : pass.active = (activations.map (·.script.id)).reverse)
    (chain : stage.SimpleChain root pass.active) (caller target : String) :
    stage.Chained root (stage.follow caller target activations pass) := by
  unfold follow
  split
  · exact ⟨linked, chain⟩
  · rename_i fresh
    split
    · exact ⟨linked, chain⟩
    · rename_i room
      split
      · exact ⟨linked, chain⟩
      · rename_i script found
        have identified : script.id = target := keyed target script found
        have started : pass.active ≠ [] := by
          rw [linked]
          simpa using nonempty
        constructor
        · simp only [Pass.active_entering, linked, List.map_cons, List.reverse_cons]
        · rw [Pass.active_entering, identified]
          exact chain.extend started fresh (Nat.lt_of_not_le room)
            (ScriptStore.contains_of_find? found)

/-- What every step of a replay preserves. -/
theorem chained_next (keyed : stage.scripts.Keyed) {moment later : Moment σ S}
    (chained : stage.Chained root moment)
    (step : stage.next root clear moment = some later) : stage.Chained root later := by
  cases moment with
  | ended answer => cases step
  | start shaders surface =>
      simp only [next] at step
      split at step
      · cases step
        trivial
      · rename_i script found
        have identified : script.id = root := keyed root script found
        split at step <;> cases step
        · trivial
        · refine ⟨rfl, ?_⟩
          rw [Pass.active_entering, identified]
          exact simpleChain_root (ScriptStore.contains_of_find? found)
  | walking activations pass =>
      cases activations with
      | nil =>
          simp only [next] at step
          split at step <;> cases step <;> trivial
      | cons innermost outer =>
          obtain ⟨script, rest, caller⟩ := innermost
          obtain ⟨linked, chain⟩ := chained
          cases rest with
          | nil =>
              cases step
              constructor
              · rw [active_restoring, Pass.active_leaving, linked, List.map_cons,
                  List.reverse_cons, List.dropLast_concat]
              · rw [active_restoring, Pass.active_leaving]
                exact chain.dropLast
          | cons instruction rest =>
              simp only [next] at step
              split at step
              · cases step
                have same := stage.active_perform (stage.active_below 0) script.id instruction pass
                exact ⟨same.trans linked, by rwa [← same] at chain⟩
              · cases step
                have resumed : pass.active =
                    ((⟨script, rest, caller⟩ :: outer : List Activation).map
                      (·.script.id)).reverse := linked
                exact chained_follow keyed (by simp) resumed chain _ _

/-- **A replay ends, and its active scripts form a simple chain throughout.** For
every history of the script store, every root and every depth limit, finitely
many steps lead to the answer of `Stage.run`; at each moment at which scripts are
being walked, the active ones start with the root, are distinct and stored, and
are at most as many as the depth limit and the size of the store allow. -/
theorem run_ends_along_simple_chains (edits : List ScriptEdit) (canvas : Canvas σ S)
    (assets : AssetStore) (depthLimit : Nat) (root : String) (clear : Colour)
    (shaders : ShaderCache S) (surface : σ) :
    let scripts := ScriptStore.edited edits
    let stage : Stage σ S := { canvas, scripts, assets, depthLimit }
    let moment := fun steps => stage.after root clear steps (.start shaders surface)
    (∃ steps, moment steps = .ended (stage.run root clear shaders surface)) ∧
      ∀ steps chain, (moment steps).chain? = some chain →
        chain.head? = some root ∧ chain.Nodup ∧ (∀ id ∈ chain, scripts.contains id = true) ∧
          chain.length ≤ min (max depthLimit 1) scripts.size := by
  intro scripts stage moment
  refine ⟨leads_run shaders surface, fun steps chain => ?_⟩
  have keyed : stage.scripts.Keyed := ScriptStore.keyed_edited edits
  have chained : stage.Chained root (moment steps) :=
    after_of_next (chained_next keyed) steps trivial
  revert chained
  cases moment steps with
  | start shaders surface => rintro - ⟨⟩
  | ended answer => rintro - ⟨⟩
  | walking activations pass =>
      cases activations with
      | nil => rintro - ⟨⟩
      | cons innermost outer =>
          rintro ⟨linked, simple⟩ ⟨⟩
          refine ⟨?_, simple.distinct, simple.stored, Nat.le_min.2 ⟨simple.bounded, ?_⟩⟩
          · cases head : pass.active.head? with
            | none => simp [linked] at head
            | some first => rw [simple.starts first head]
          · exact Table.length_le_size simple.distinct simple.stored

/-- Of two scripts that refer to each other, the second is walked and its reference
back is refused. -/
example :
    let scripts := ScriptStore.edited
      [.put "even" [.drawScript "odd"], .put "odd" [.drawScript "even", .drawScript "gone"]]
    let stage : Stage Recording Nat :=
      { canvas := Recording.canvas, scripts, assets := {}, depthLimit := 64 }
    (stage.run "even" Colour.black {} {}).1 =
      .ok
        { visited := 2
          warnings :=
            [.cycleDetected ["even", "odd", "even"], .danglingReference "odd" "gone"] } := by
  rfl

end Stage

end ScenePlayer
