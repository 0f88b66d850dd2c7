import ScenePlayer.Proofs.Replay.ActiveScripts

/-!
A replay step by step. `Stage.next` carries out one instruction, enters or
leaves one script, or starts or ends the frame. It keeps the scripts being
walked as an explicit list and asks for nothing that gets smaller: a reference
is followed or refused by the active scripts and the depth limit alone.
`Stage.run` is what these steps come to (`Stage.leads_run`), so whatever holds at
every moment holds throughout a replay.
-/

namespace ScenePlayer

/-- The script that an instruction refers to. -/
def Instruction.reference? : Instruction → Option String
  | .drawScript target => some target
  | _ => none

theorem reference?_eq_some {instruction : Instruction} {target : String} :
    instruction.reference? = some target ↔ instruction = .drawScript target := by
  cases instruction <;> simp [Instruction.reference?]

/-- A script being walked. -/
structure Activation where
  script : Script
  /-- The instructions still to be carried out. -/
  rest : List Instruction
  /-- The path and the scope to return to; the root has none. -/
  caller : Option (Pen × Scope)

/-- How far a replay has come. -/
inductive Moment (σ S : Type) where
  | start (shaders : ShaderCache S) (surface : σ)
  /-- Scripts are being walked, the innermost first. -/
  | walking (activations : List Activation) (pass : Pass σ S)
  | ended (answer : Except ReplayError ReplayReport × ShaderCache S × σ)

variable {σ S : Type}

/-- The active scripts, outermost first, as long as one is being walked. -/
def Moment.chain? : Moment σ S → Option (List String)
  | .walking (_ :: _) pass => some pass.active
  | _ => none

/-- Scripts are being walked, and more than `count` of them are active. -/
def Moment.Above (count : Nat) : Moment σ S → Prop
  | .walking _ pass => count < pass.active.length
  | _ => False

theorem Moment.Above.mono {more fewer : Nat} {moment : Moment σ S} (above : moment.Above more)
    (le : fewer ≤ more) : moment.Above fewer := by
  cases moment with
  | walking activations pass => exact Nat.lt_of_le_of_lt le above
  | _ => exact above

/-- Return to the path and the scope of a caller. -/
def Pass.restoring (caller : Option (Pen × Scope)) (pass : Pass σ S) : Pass σ S :=
  match caller with
  | none => pass
  | some (pen, scope) => { pass with pen, stack := pass.stack.exit scope }

namespace Stage

variable (stage : Stage σ S)

/-- Follow a reference, or refuse it with a warning. -/
def follow (caller target : String) (activations : List Activation) (pass : Pass σ S) :
    Moment σ S :=
  if target ∈ pass.active then
    .walking activations (pass.warn (.cycleDetected (pass.active ++ [target])))
  else if stage.depthLimit ≤ pass.active.length then
    .walking activations (pass.warn (.depthExceeded target pass.active.length))
  else
    match stage.scripts.find? target with
    | none => .walking activations (pass.warn (.danglingReference caller target))
    | some script =>
        let (scope, stack) := pass.stack.enter
        .walking (⟨script, script.instructions, some (pass.pen, scope)⟩ :: activations)
          (Pass.entering script.id { pass with stack, pen := {} })

/-- The next moment of the replay of `root`; there is none once it has ended. -/
def next (root : String) (clear : Colour) : Moment σ S → Option (Moment σ S)
  | .start shaders surface =>
      match stage.scripts.find? root with
      | none => some (.ended (.error .missingRoot, shaders, surface))
      | some script =>
          match stage.canvas.beginFrame clear surface with
          | (.error error, surface) => some (.ended (.error (.canvas error), shaders, surface))
          | (.ok (), surface) =>
              some (.walking [⟨script, script.instructions, none⟩]
                (Pass.entering script.id { surface, shaders }))
  | .walking [] pass =>
      match stage.canvas.endFrame pass.surface with
      | (.error error, surface) => some (.ended (.error (.canvas error), pass.shaders, surface))
      | (.ok (), surface) => some (.ended (.ok pass.report, pass.shaders.endFrame.2, surface))
  | .walking (⟨_, [], caller⟩ :: outer) pass =>
      some (.walking outer (pass.leaving.restoring caller))
  | .walking (⟨script, instruction :: rest, caller⟩ :: outer) pass =>
      let activations := ⟨script, rest, caller⟩ :: outer
      match instruction.reference? with
      | none => some (.walking activations (stage.perform none script.id instruction pass))
      | some target => some (stage.follow script.id target activations pass)
  | .ended _ => none

/-- The moment after a number of steps; what has ended stays as it is. -/
def after (root : String) (clear : Colour) : Nat → Moment σ S → Moment σ S
  | 0, moment => moment
  | steps + 1, moment =>
      match stage.next root clear moment with
      | none => moment
      | some moment => after root clear steps moment

variable {stage} {root : String} {clear : Colour}

theorem after_add (first second : Nat) (moment : Moment σ S) :
    stage.after root clear (first + second) moment =
      stage.after root clear second (stage.after root clear first moment) := by
  induction first generalizing moment with
  | zero => rw [Nat.zero_add]; rfl
  | succ first ih =>
      rw [Nat.succ_add]
      cases step : stage.next root clear moment with
      | none => cases second <;> simp [after, step]
      | some later => simp only [after, step, ih]

/-- A property that every step preserves holds at every moment. -/
theorem after_of_next {P : Moment σ S → Prop}
    (kept : ∀ {moment later}, P moment → stage.next root clear moment = some later → P later)
    (steps : Nat) {moment : Moment σ S} (holds : P moment) :
    P (stage.after root clear steps moment) := by
  induction steps generalizing moment with
  | zero => exact holds
  | succ steps ih =>
      cases step : stage.next root clear moment with
      | none => simpa only [after, step] using holds
      | some later => simpa only [after, step] using ih (kept holds step)

/-- Some number of steps leads from one moment to another. -/
def Leads (stage : Stage σ S) (root : String) (clear : Colour) (moment later : Moment σ S) : Prop :=
  ∃ steps, stage.after root clear steps moment = later

theorem Leads.trans {first second third : Moment σ S}
    (left : stage.Leads root clear first second) (right : stage.Leads root clear second third) :
    stage.Leads root clear first third := by
  obtain ⟨m, rfl⟩ := left
  obtain ⟨n, rfl⟩ := right
  exact ⟨m + n, after_add m n first⟩

theorem Leads.step {moment later : Moment σ S}
    (next : stage.next root clear moment = some later) : stage.Leads root clear moment later :=
  ⟨1, by simp [after, next]⟩

theorem after_ended (steps : Nat)
    (answer : Except ReplayError ReplayReport × ShaderCache S × σ) :
    stage.after root clear steps (.ended answer) = .ended answer := by
  cases steps <;> rfl

/-- A replay ends in one way only. -/
theorem Leads.ended_unique {moment : Moment σ S}
    {answer other : Except ReplayError ReplayReport × ShaderCache S × σ}
    (left : stage.Leads root clear moment (.ended answer))
    (right : stage.Leads root clear moment (.ended other)) : answer = other := by
  obtain ⟨m, ends⟩ := left
  obtain ⟨n, otherEnds⟩ := right
  have late : stage.after root clear (m + n) moment = _ := after_add m n moment
  have otherLate : stage.after root clear (n + m) moment = _ := after_add n m moment
  rw [ends, after_ended] at late
  rw [otherEnds, after_ended, Nat.add_comm, late] at otherLate
  cases otherLate
  rfl

/-- Some number of steps leads from one moment to another, and `P` holds at all moments
before the last one. -/
def LeadsThrough (stage : Stage σ S) (P : Moment σ S → Prop) (root : String) (clear : Colour)
    (moment later : Moment σ S) : Prop :=
  ∃ steps, stage.after root clear steps moment = later ∧
    ∀ earlier < steps, P (stage.after root clear earlier moment)

namespace LeadsThrough

variable {P Q : Moment σ S → Prop} {first second third : Moment σ S}

theorem leads (through : stage.LeadsThrough P root clear first second) :
    stage.Leads root clear first second := by
  obtain ⟨steps, arrives, -⟩ := through
  exact ⟨steps, arrives⟩

theorem mono (through : stage.LeadsThrough P root clear first second)
    (weaker : ∀ moment, P moment → Q moment) :
    stage.LeadsThrough Q root clear first second := by
  obtain ⟨steps, arrives, holds⟩ := through
  exact ⟨steps, arrives, fun earlier before => weaker _ (holds earlier before)⟩

theorem refl (moment : Moment σ S) : stage.LeadsThrough P root clear moment moment :=
  ⟨0, rfl, by simp⟩

theorem step (holds : P first) (next : stage.next root clear first = some second) :
    stage.LeadsThrough P root clear first second := by
  refine ⟨1, by simp [after, next], fun earlier before => ?_⟩
  obtain rfl : earlier = 0 := by omega
  exact holds

theorem trans (left : stage.LeadsThrough P root clear first second)
    (right : stage.LeadsThrough P root clear second third) :
    stage.LeadsThrough P root clear first third := by
  obtain ⟨m, rfl, holds⟩ := left
  obtain ⟨n, rfl, later⟩ := right
  refine ⟨m + n, after_add m n first, fun earlier before => ?_⟩
  rcases Nat.lt_or_ge earlier m with inFirst | inSecond
  · exact holds earlier inFirst
  · obtain ⟨further, rfl⟩ := Nat.exists_eq_add_of_le inSecond
    rw [after_add]
    exact later further (by omega)

end LeadsThrough

/-! ### Walks as steps -/

/-- What is to be followed matters to references only. -/
theorem perform_of_reference_none {instruction : Instruction}
    (plain : instruction.reference? = none) (descend : Option (Script → Pass σ S → Pass σ S))
    (script : String) (pass : Pass σ S) :
    stage.perform descend script instruction pass = stage.perform none script instruction pass := by
  cases instruction with
  | drawScript target => cases plain
  | _ => rfl

/-- So many levels are left below the scripts that are active. -/
def HasLevels (stage : Stage σ S) (levels : Nat) (pass : Pass σ S) : Prop :=
  pass.active ≠ [] ∧ pass.active.length + levels = max stage.depthLimit 1

/-- The walk of a script with `levels` below it is a number of steps, whatever
waits for it to return. -/
def Unfolds (stage : Stage σ S) (root : String) (clear : Colour) (levels : Nat) : Prop :=
  ∀ script caller outer (pass : Pass σ S), stage.HasLevels levels (pass.entering script.id) →
    stage.Leads root clear
      (.walking (⟨script, script.instructions, caller⟩ :: outer) (pass.entering script.id))
      (.walking outer ((stage.walk levels script pass).restoring caller))

/-- While such a walk goes on, more scripts are active than before it. -/
def UnfoldsAbove (stage : Stage σ S) (root : String) (clear : Colour) (levels : Nat) : Prop :=
  ∀ script caller outer (pass : Pass σ S), stage.HasLevels levels (pass.entering script.id) →
    stage.LeadsThrough (Moment.Above pass.active.length) root clear
      (.walking (⟨script, script.instructions, caller⟩ :: outer) (pass.entering script.id))
      (.walking outer ((stage.walk levels script pass).restoring caller))

theorem leads_drawScript {levels : Nat}
    (unfolds : ∀ fewer, levels = fewer + 1 → stage.UnfoldsAbove root clear fewer)
    {pass : Pass σ S} (left : stage.HasLevels levels pass) (caller target : String)
    (activations : List Activation) :
    stage.LeadsThrough (Moment.Above pass.active.length) root clear
      (stage.follow caller target activations pass)
      (.walking activations (stage.drawScript (stage.below levels) caller target pass)) := by
  obtain ⟨nonempty, count⟩ := left
  have positive : 0 < pass.active.length := List.length_pos_iff.2 nonempty
  unfold follow drawScript
  split
  · exact .refl _
  · cases levels with
    | zero =>
        rw [if_pos (by omega)]
        exact .refl _
    | succ levels =>
        rw [if_neg (by omega)]
        dsimp only [below]
        cases stage.scripts.find? target with
        | none => exact .refl _
        | some script =>
            refine unfolds levels rfl script (some (pass.pen, pass.stack.enter.1)) activations
              { pass with stack := pass.stack.enter.2, pen := {} } ⟨by simp, ?_⟩
            simp only [Pass.active_entering, List.length_append, List.length_singleton]
            omega

theorem leads_instructions {levels : Nat}
    (unfolds : ∀ fewer, levels = fewer + 1 → stage.UnfoldsAbove root clear fewer)
    (script : Script) (caller : Option (Pen × Scope)) (outer : List Activation)
    (instructions : List Instruction) {pass : Pass σ S} (left : stage.HasLevels levels pass)
    {count : Nat} (above : count < pass.active.length) :
    stage.LeadsThrough (Moment.Above count) root clear
      (.walking (⟨script, instructions, caller⟩ :: outer) pass)
      (.walking (⟨script, [], caller⟩ :: outer)
        (instructions.foldl (fun pass instruction =>
          stage.perform (stage.below levels) script.id instruction pass) pass)) := by
  induction instructions generalizing pass with
  | nil => exact .refl _
  | cons first rest ih =>
      have same := stage.active_perform (stage.active_below levels) script.id first pass
      have later : stage.HasLevels levels
          (stage.perform (stage.below levels) script.id first pass) := by
        rwa [HasLevels, same]
      refine LeadsThrough.trans ?_ (ih later (same ▸ above))
      cases refers : first.reference? with
      | none =>
          refine .step above ?_
          simp only [next, refers, perform_of_reference_none refers (stage.below levels)]
      | some target =>
          obtain rfl := reference?_eq_some.1 refers
          have followed := leads_drawScript unfolds left script.id target
            (⟨script, rest, caller⟩ :: outer)
          exact (LeadsThrough.step above rfl).trans
            (followed.mono fun moment deeper => deeper.mono (Nat.le_of_lt above))

theorem unfoldsAbove (levels : Nat) : stage.UnfoldsAbove root clear levels := by
  induction levels using Nat.strongRecOn with
  | ind levels ih =>
      intro script caller outer pass left
      rw [walk_eq, walkWith_eq]
      have entered : pass.active.length < (pass.entering script.id).active.length := by simp
      have walked := leads_instructions (fun fewer eq => ih fewer (by omega)) script caller outer
        script.instructions left entered
      have active := stage.active_foldl (stage.active_below levels) script.id
        script.instructions (pass.entering script.id)
      refine walked.trans (.step ?_ rfl)
      simp only [Moment.Above, active, entered]

theorem unfolds (levels : Nat) : stage.Unfolds root clear levels :=
  fun script caller outer pass left =>
    (unfoldsAbove levels script caller outer pass left).leads

/-- A replay gets to its answer after finitely many steps. -/
theorem leads_run (shaders : ShaderCache S) (surface : σ) :
    stage.Leads root clear (.start shaders surface)
      (.ended (stage.run root clear shaders surface)) := by
  unfold run
  cases found : stage.scripts.find? root with
  | none => exact .step (by simp only [next, found])
  | some script =>
      rcases begun : stage.canvas.beginFrame clear surface with ⟨error | ⟨⟨⟩⟩, opened⟩
      · exact .step (by simp only [next, found, begun])
      · let pass : Pass σ S := { surface := opened, shaders }
        have entered : stage.Leads root clear (.start shaders surface)
            (.walking [⟨script, script.instructions, none⟩] (pass.entering script.id)) :=
          .step (by simp only [next, found, begun, pass])
        have walked := @unfolds σ S stage root clear (stage.depthLimit - 1) script none [] pass
          ⟨by simp, by simp only [Pass.active_entering, pass, List.nil_append,
            List.length_singleton]; omega⟩
        refine (entered.trans walked).trans ?_
        dsimp only [Pass.restoring, pass]
        rcases ended : stage.canvas.endFrame
          (stage.walk (stage.depthLimit - 1) script { surface := opened, shaders }).surface
          with ⟨error | ⟨⟨⟩⟩, closed⟩
        · exact .step (by simp only [next, ended])
        · exact .step (by simp only [next, ended])

end Stage

end ScenePlayer
