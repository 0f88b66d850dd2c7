import ScenePlayer.Proofs.Canvas.Trace
import ScenePlayer.Proofs.Replay.Moment
import ScenePlayer.Proofs.Script.Edits

/-!
What a frame reads of the script store. A pass looks a script up only when it follows a
reference to it, so it never gets beyond the scripts that are reachable from the root
(`ScriptStore.Reachable`). Stores that hold the same instructions for all of these show
the same frame, whatever else they hold and whatever the generations are
(`frame_reads_reachable_scripts`). Walks are compared under any set of identifiers that
is closed under references (`Stage.walk_congr`); the reachable ones are such a set.
-/

namespace ScenePlayer

variable {σ S : Type}

namespace ScriptStore

/-- The identifiers to which references lead from `root`, which is one of them. -/
inductive Reachable (store : ScriptStore) (root : String) : String → Prop where
  | root : Reachable store root root
  | follow {id target : String} {script : Script} (reached : Reachable store root id)
      (found : store.find? id = some script) (refers : .drawScript target ∈ script.instructions) :
      Reachable store root target

/-- The reachable identifiers are the least ones that contain the root and that
references do not leave. -/
theorem Reachable.least {store : ScriptStore} {root : String} {ids : String → Prop}
    (start : ids root)
    (closed : ∀ id script target, ids id → store.find? id = some script →
      .drawScript target ∈ script.instructions → ids target) {id : String}
    (reached : store.Reachable root id) : ids id := by
  induction reached with
  | root => exact start
  | follow _ found refers within => exact closed _ _ _ within found refers

/-- Two stores hold the same instructions under `id`, or both of them none. -/
def AgreesAt (store other : ScriptStore) (id : String) : Prop :=
  (store.find? id).map Script.instructions = (other.find? id).map Script.instructions

/-- The scripts that two stores hold under one identifier differ in their generations
only. -/
inductive Counterparts (store other : ScriptStore) (id : String) :
    Option Script → Option Script → Prop where
  | missing : Counterparts store other id none none
  | stored {script counterpart : Script} (found : store.find? id = some script)
      (same : counterpart.instructions = script.instructions) (identified : script.id = id)
      (counterIdentified : counterpart.id = id) :
      Counterparts store other id (some script) (some counterpart)

theorem AgreesAt.counterparts {store other : ScriptStore} {id : String}
    (agrees : store.AgreesAt other id) (keyed : store.Keyed) (otherKeyed : other.Keyed) :
    store.Counterparts other id (store.find? id) (other.find? id) := by
  unfold AgreesAt at agrees
  cases found : store.find? id with
  | none =>
      rw [found, Option.map_none, eq_comm, Option.map_eq_none_iff] at agrees
      rw [agrees]
      exact .missing
  | some script =>
      rw [found, Option.map_some, eq_comm] at agrees
      obtain ⟨counterpart, stored, same⟩ := Option.map_eq_some_iff.1 agrees
      rw [stored]
      exact .stored found same (keyed id script found) (otherKeyed id counterpart stored)

/-- Identifiers on which two stores agree and which references do not leave. -/
structure AgreesWithin (store other : ScriptStore) (ids : String → Prop) : Prop where
  agrees : ∀ id, ids id → store.AgreesAt other id
  closed : ∀ id script target, ids id → store.find? id = some script →
    .drawScript target ∈ script.instructions → ids target

end ScriptStore

namespace Stage

/-- The same stage with other scripts. -/
def withScripts (scripts : ScriptStore) (stage : Stage σ S) : Stage σ S := { stage with scripts }

variable {stage : Stage σ S} {other : ScriptStore} {ids : String → Prop}

section Descend

variable (within : stage.scripts.AgreesWithin other ids) (keyed : stage.scripts.Keyed)
  (otherKeyed : other.Keyed)
  {descend counter : Option (Script → Pass σ S → Pass σ S)}
  (followed : Option.Rel (fun walk counterwalk => ∀ script counterpart : Script,
    counterpart.id = script.id → counterpart.instructions = script.instructions →
      (∀ target, .drawScript target ∈ script.instructions → ids target) →
        ∀ pass, counterwalk counterpart pass = walk script pass) descend counter)

include within keyed otherKeyed followed

theorem drawScript_congr (caller : String) {target : String} (reached : ids target)
    (pass : Pass σ S) :
    (stage.withScripts other).drawScript counter caller target pass =
      stage.drawScript descend caller target pass := by
  unfold drawScript
  split
  · rfl
  · cases followed with
    | none => rfl
    | some same =>
        have counterparts := (within.agrees target reached).counterparts keyed otherKeyed
        dsimp only [withScripts]
        generalize found : stage.scripts.find? target = script at counterparts ⊢
        generalize other.find? target = counterpart at counterparts ⊢
        cases counterparts with
        | missing => rfl
        | stored stored instructions identified counterIdentified =>
            dsimp only
            rw [same _ _ (counterIdentified.trans identified.symm) instructions
              fun further => within.closed target _ further reached stored]

/-- Only references read the store, and those only at the identifier they name. -/
theorem perform_congr (script : String) {instruction : Instruction}
    (reached : ∀ target, instruction = .drawScript target → ids target) (pass : Pass σ S) :
    (stage.withScripts other).perform counter script instruction pass =
      stage.perform descend script instruction pass := by
  cases instruction with
  | drawScript target =>
      exact drawScript_congr within keyed otherKeyed followed script (reached target rfl) pass
  | _ => rfl

theorem walkWith_congr {script counterpart : Script} (identified : counterpart.id = script.id)
    (same : counterpart.instructions = script.instructions)
    (reached : ∀ target, .drawScript target ∈ script.instructions → ids target)
    (pass : Pass σ S) :
    (stage.withScripts other).walkWith counter counterpart pass =
      stage.walkWith descend script pass := by
  have performed : ∀ instructions : List Instruction,
      (∀ target, .drawScript target ∈ instructions → ids target) → ∀ pass : Pass σ S,
        instructions.foldl (fun pass instruction =>
          (stage.withScripts other).perform counter script.id instruction pass) pass =
        instructions.foldl (fun pass instruction =>
          stage.perform descend script.id instruction pass) pass := by
    intro instructions reached pass
    induction instructions generalizing pass with
    | nil => rfl
    | cons first rest ih =>
        have here : ∀ target, first = .drawScript target → ids target := by
          rintro target rfl
          exact reached target List.mem_cons_self
        have later : ∀ target, .drawScript target ∈ rest → ids target :=
          fun target member => reached target (List.mem_cons_of_mem _ member)
        rw [List.foldl_cons, List.foldl_cons,
          perform_congr within keyed otherKeyed followed script.id here]
        exact ih later _
  rw [walkWith_eq, walkWith_eq, identified, same]
  exact congrArg Pass.leaving (performed script.instructions reached _)

end Descend

section Within

variable (within : stage.scripts.AgreesWithin other ids) (keyed : stage.scripts.Keyed)
  (otherKeyed : other.Keyed)

include within keyed otherKeyed

/-- Walks of the same instructions are the same, as long as their references stay within
identifiers on which the stores agree. -/
theorem walk_congr (levels : Nat) {script counterpart : Script}
    (identified : counterpart.id = script.id)
    (same : counterpart.instructions = script.instructions)
    (reached : ∀ target, .drawScript target ∈ script.instructions → ids target)
    (pass : Pass σ S) :
    (stage.withScripts other).walk levels counterpart pass = stage.walk levels script pass := by
  induction levels generalizing script counterpart pass with
  | zero => exact walkWith_congr within keyed otherKeyed .none identified same reached pass
  | succ levels ih =>
      refine walkWith_congr within keyed otherKeyed (.some ?_) identified same reached pass
      exact fun script counterpart identified same reached pass => ih identified same reached pass

theorem run_congr {root : String} (reached : ids root) (clear : Colour) (shaders : ShaderCache S)
    (surface : σ) :
    (stage.withScripts other).run root clear shaders surface =
      stage.run root clear shaders surface := by
  have counterparts := (within.agrees root reached).counterparts keyed otherKeyed
  simp only [run, withScripts]
  generalize found : stage.scripts.find? root = script at counterparts ⊢
  generalize other.find? root = counterpart at counterparts ⊢
  cases counterparts with
  | missing => rfl
  | stored stored instructions identified counterIdentified =>
      have walked := fun pass : Pass σ S => walk_congr within keyed otherKeyed
        (stage.depthLimit - 1) (counterIdentified.trans identified.symm) instructions
        (fun further => within.closed root _ further reached stored) pass
      simp only [withScripts] at walked
      simp only [walked]

end Within

end Stage

/-- **A frame reads the scripts that are reachable from its root, and of these the
instructions only.** Let two stores, after any histories, designate the same root and hold
the same instructions, or both nothing, under every identifier that is reachable from it.
Then replays with the same assets, shader cache, depth limit and clear colour on the same
surface make the same calls, answer and report the same, and leave the same shader cache
and the same surface. -/
theorem frame_reads_reachable_scripts (edits others : List ScriptEdit)
    (designated : (ScriptStore.edited others).root = (ScriptStore.edited edits).root)
    (agree : ∀ root, (ScriptStore.edited edits).root = some root → ∀ id,
      (ScriptStore.edited edits).Reachable root id →
        (ScriptStore.edited edits).AgreesAt (ScriptStore.edited others) id)
    (canvas : Canvas σ S) (assets : AssetStore) (depthLimit : Nat) (clear : Colour)
    (shaders : ShaderCache S) (surface : σ) :
    let stage : Stage σ S := { canvas, scripts := ScriptStore.edited edits, assets, depthLimit }
    let other : Stage σ S := { canvas, scripts := ScriptStore.edited others, assets, depthLimit }
    other.replay clear shaders surface = stage.replay clear shaders surface ∧
      other.tracing.replay clear shaders (surface, []) =
        stage.tracing.replay clear shaders (surface, []) := by
  have same : ∀ {τ : Type} (canvas : Canvas τ S) (surface : τ),
      Stage.replay { canvas, scripts := ScriptStore.edited others, assets, depthLimit } clear
          shaders surface =
        Stage.replay { canvas, scripts := ScriptStore.edited edits, assets, depthLimit } clear
          shaders surface := by
    intro τ canvas surface
    simp only [Stage.replay, designated]
    cases designation : (ScriptStore.edited edits).root with
    | none => rfl
    | some root =>
        let stage : Stage τ S := { canvas, scripts := ScriptStore.edited edits, assets, depthLimit }
        have within : stage.scripts.AgreesWithin (ScriptStore.edited others)
            ((ScriptStore.edited edits).Reachable root) := by
          constructor
          · exact agree root designation
          · intro id script target reached found refers
            exact .follow reached found refers
        show (stage.withScripts (ScriptStore.edited others)).run root clear shaders surface =
          stage.run root clear shaders surface
        exact Stage.run_congr within (ScriptStore.keyed_edited edits)
          (ScriptStore.keyed_edited others) .root clear shaders surface
  intro stage other
  exact ⟨same canvas surface, same canvas.tracing (surface, [])⟩

/-- The hypotheses hold between the following histories. The root and `"a"` refer to each
other, the root also to `"gone"`, which is not stored. The other history stores `"a"`
twice, and has lost `"b"`, to which nothing refers. -/
theorem frame_reads_reachable_scripts_of_cycle :
    let edits : List ScriptEdit :=
      [.put rootId [.pushState, .drawScript "a", .drawScript "gone"],
        .put "a" [.drawScript rootId], .put "b" [.popState]]
    let others : List ScriptEdit :=
      [.put "a" [], .put "b" [.popState],
        .put rootId [.pushState, .drawScript "a", .drawScript "gone"],
        .put "a" [.drawScript rootId], .delete "b"]
    let stage (scripts : ScriptStore) : Stage Recording Nat :=
      { canvas := Recording.canvas, scripts, assets := {}, depthLimit := 8 }
    (ScriptStore.edited others).ids ≠ (ScriptStore.edited edits).ids ∧
      (ScriptStore.edited others).root = (ScriptStore.edited edits).root ∧
      (∀ root, (ScriptStore.edited edits).root = some root → ∀ id,
        (ScriptStore.edited edits).Reachable root id →
          (ScriptStore.edited edits).AgreesAt (ScriptStore.edited others) id) ∧
      (stage (ScriptStore.edited others)).replay .black {} {} =
        (stage (ScriptStore.edited edits)).replay .black {} {} := by
  intro edits others stage
  let ids := [rootId, "a", "gone"]
  have closed : ids.all (fun id => ((ScriptStore.edited edits).find? id).all fun script =>
      script.instructions.all fun instruction =>
        instruction.reference?.all fun target => decide (target ∈ ids)) = true := by
    decide +kernel
  have agree : ∀ root, (ScriptStore.edited edits).root = some root → ∀ id,
      (ScriptStore.edited edits).Reachable root id →
        (ScriptStore.edited edits).AgreesAt (ScriptStore.edited others) id := by
    intro root designation id reached
    have isRoot : (ScriptStore.edited edits).root = some rootId := by decide +kernel
    obtain rfl : rootId = root := Option.some.inj (isRoot.symm.trans designation)
    have within : id ∈ ids := by
      refine reached.least List.mem_cons_self ?_
      intro id script target member found refers
      have kept := List.all_eq_true.1 closed id member
      rw [found, Option.all_some] at kept
      exact of_decide_eq_true (List.all_eq_true.1 kept _ refers)
    have agrees : ∀ id ∈ ids,
        ((ScriptStore.edited edits).find? id).map Script.instructions =
          ((ScriptStore.edited others).find? id).map Script.instructions := by decide +kernel
    exact agrees id within
  have designated : (ScriptStore.edited others).root = (ScriptStore.edited edits).root := by
    decide +kernel
  exact ⟨by decide +kernel, designated, agree,
    (frame_reads_reachable_scripts edits others designated agree Recording.canvas {} 8 .black {}
      {}).1⟩

end ScenePlayer
