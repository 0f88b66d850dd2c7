import ScenePlayer.Canvas.Recording
import ScenePlayer.Proofs.Replay.Change
import ScenePlayer.Proofs.Replay.Itinerary

/-!
A replay keeps to the itinerary of its root. At every moment, what has become of
references so far and what will become of those still to be carried out
(`Stage.pending`) make up the whole itinerary; each step takes over one stop at most
(`Stage.OnTour.next`). When all scripts are left nothing is pending, so the walks,
their number and the warnings about references are those of the itinerary
(`Stage.walks_follow_simple_paths`).
-/

namespace ScenePlayer

variable {σ S : Type}

/-! ### What a moment shows -/

/-- The place of the instruction that is carried out next. -/
def Activation.place (activation : Activation) : Nat :=
  activation.script.instructions.length - activation.rest.length

/-- Some instruction of the script has been carried out. -/
def Activation.Begun (activation : Activation) : Prop :=
  activation.rest.length < activation.script.instructions.length

/-- The places of the references that are being followed, one in each script. -/
def route (activations : List Activation) : List Nat :=
  (activations.map fun activation => activation.place - 1).reverse

/-- The scripts being walked, outermost first. -/
def chain (activations : List Activation) : List String :=
  (activations.map (·.script.id)).reverse

/-- The walk that begins at a moment, if one does: none of its script's instructions has
been carried out yet. -/
def Moment.entered? : Moment σ S → Option (List Nat × List String)
  | .walking (innermost :: outer) pass =>
      if innermost.rest = innermost.script.instructions then some (route outer, pass.active)
      else none
  | _ => none

namespace Stage

/-- The walks that begin within a number of steps, in the order in which they do. -/
def walks (stage : Stage σ S) (root : String) (clear : Colour) (steps : Nat)
    (moment : Moment σ S) : List (List Nat × List String) :=
  (List.range (steps + 1)).filterMap fun k => (stage.after root clear k moment).entered?

/-- What will become of the references that are still to be carried out. -/
def pending (stage : Stage σ S) : List Activation → List Stop
  | [] => []
  | innermost :: outer =>
      (references innermost.place innermost.rest).flatMap
          (stage.scripts.stop stage.depthLimit (route outer) (chain (innermost :: outer))
            innermost.script.id) ++
        stage.pending outer

variable {stage : Stage σ S} {root : String} {clear : Colour}

theorem walks_succ (steps : Nat) (moment : Moment σ S) :
    stage.walks root clear (steps + 1) moment =
      stage.walks root clear steps moment ++
        (stage.after root clear (steps + 1) moment).entered?.toList := by
  rw [walks, List.range_succ, List.filterMap_append]
  congr 1

theorem after_succ (steps : Nat) {moment later : Moment σ S}
    (step : stage.next root clear (stage.after root clear steps moment) = some later) :
    stage.after root clear (steps + 1) moment = later := by
  rw [after_add]
  simp only [after, step]

/-- Following a reference is going on to where the store says, or warning as it says. -/
theorem follow_eq (caller target : String) (activations : List Activation) (pass : Pass σ S) :
    stage.follow caller target activations pass =
      match stage.scripts.onward stage.depthLimit pass.active caller target with
      | .error warning => .walking activations (pass.warn warning)
      | .ok script =>
          .walking
            (⟨script, script.instructions, some (pass.pen, pass.stack.enter.1)⟩ :: activations)
            (Pass.entering script.id { pass with stack := pass.stack.enter.2, pen := {} }) := by
  unfold follow ScriptStore.onward
  split
  · rfl
  · split
    · rfl
    · cases stage.scripts.find? target <;> rfl

/-- Of a script that has just been entered all stops are pending. -/
theorem pending_entered (script : Script) (caller : Option (Pen × Scope))
    (outer : List Activation) :
    stage.pending (⟨script, script.instructions, caller⟩ :: outer) =
      stage.scripts.stops stage.depthLimit (route outer) (chain outer ++ [script.id]) script ++
        stage.pending outer := by
  simp only [pending, Activation.place, Nat.sub_self, chain, List.map_cons, List.reverse_cons,
    ScriptStore.stops_eq]

/-! ### Carrying out one instruction -/

section Advance

variable {script : Script} {rest : List Instruction} {caller : Option (Pen × Scope)}
  (shorter : rest.length < script.instructions.length)

include shorter

/-- The next instruction stands one place further on. -/
theorem place_advance (instruction : Instruction) :
    (⟨script, rest, caller⟩ : Activation).place =
      (⟨script, instruction :: rest, caller⟩ : Activation).place + 1 := by
  simp only [Activation.place, List.length_cons]
  omega

theorem pending_of_none {instruction : Instruction} (plain : instruction.reference? = none)
    (outer : List Activation) :
    stage.pending (⟨script, instruction :: rest, caller⟩ :: outer) =
      stage.pending (⟨script, rest, caller⟩ :: outer) := by
  simp only [pending, references_cons_of_none plain, place_advance shorter instruction]
  rfl

variable (stage) in
/-- What is pending before a reference: what becomes of it, at the place to which the
route from its script will point, and what is pending behind it. -/
theorem pending_reference (target : String) (outer : List Activation) :
    ∃ place,
      route (⟨script, rest, caller⟩ :: outer) = route outer ++ [place] ∧
        stage.pending (⟨script, .drawScript target :: rest, caller⟩ :: outer) =
          stage.scripts.stop stage.depthLimit (route outer)
              (chain (⟨script, rest, caller⟩ :: outer)) script.id (place, target) ++
            stage.pending (⟨script, rest, caller⟩ :: outer) := by
  refine ⟨(⟨script, .drawScript target :: rest, caller⟩ : Activation).place, ?_, ?_⟩
  · rw [route, List.map_cons, List.reverse_cons, place_advance shorter (.drawScript target),
      Nat.add_sub_cancel]
    rfl
  · simp only [pending, references_cons, List.flatMap_cons, List.append_assoc,
      place_advance shorter (.drawScript target)]
    rfl

end Advance

theorem visited_perform {instruction : Instruction} (plain : instruction.reference? = none)
    (script : String) (pass : Pass σ S) :
    (stage.perform none script instruction pass).report.visited = pass.report.visited :=
  stage.perform_of_change (P := fun after => after.report.visited = pass.report.visited)
    (fun same change => change.visited.trans same) plain none script rfl

theorem refusals_perform {instruction : Instruction} (plain : instruction.reference? = none)
    (script : String) (pass : Pass σ S) :
    (stage.perform none script instruction pass).report.warnings.filter (·.isRefusal) =
      pass.report.warnings.filter (·.isRefusal) :=
  stage.perform_of_change
    (P := fun after => after.report.warnings.filter (·.isRefusal) =
      pass.report.warnings.filter (·.isRefusal))
    (fun same change => change.refusals.trans same) plain none script rfl

/-! ### A replay on its way -/

/-- How far a replay has come: what has become of references, `past`, has been counted
and warned of, and with what is pending it makes up the itinerary. -/
structure OnTour (stage : Stage σ S) (itinerary past : List Stop) (activations : List Activation)
    (pass : Pass σ S) : Prop where
  linked : pass.active = chain activations
  within : ∀ activation ∈ activations,
    activation.rest.length ≤ activation.script.instructions.length
  begun : ∀ activation ∈ activations.tail, activation.Begun
  whole : past ++ stage.pending activations = itinerary
  visited : pass.report.visited = (past.filterMap Stop.walked?).length
  refusals : pass.report.warnings.filter (·.isRefusal) = past.filterMap Stop.warning?

variable {itinerary past : List Stop} {pass : Pass σ S}

/-- No walk begins where the innermost script has been begun, or none is left. -/
theorem entered?_of_begun {activations : List Activation}
    (begun : ∀ activation ∈ activations.head?, activation.Begun) (pass : Pass σ S) :
    (Moment.walking activations pass).entered? = none := by
  cases activations with
  | nil => rfl
  | cons innermost outer =>
      have shorter := begun innermost rfl
      refine if_neg fun whole => ?_
      rw [Activation.Begun, whole] at shorter
      exact Nat.lt_irrefl _ shorter

/-- A script that is left has nothing pending. -/
theorem OnTour.leave {script : Script} {caller : Option (Pen × Scope)} {outer : List Activation}
    (tour : stage.OnTour itinerary past (⟨script, [], caller⟩ :: outer) pass) :
    stage.OnTour itinerary past outer (pass.leaving.restoring caller) ∧
      (Moment.walking outer (pass.leaving.restoring caller)).entered? = none := by
  obtain ⟨linked, within, begun, whole, visited, refusals⟩ := tour
  have active : (pass.leaving.restoring caller).active = pass.active.dropLast := by
    cases caller <;> rfl
  have report : (pass.leaving.restoring caller).report = pass.report := by
    cases caller <;> rfl
  refine ⟨⟨?_, ?_, ?_, whole, ?_, ?_⟩, ?_⟩
  · rw [active, linked, chain, List.map_cons, List.reverse_cons, List.dropLast_concat, chain]
  · exact fun activation member => within activation (List.mem_cons_of_mem _ member)
  · exact fun activation member => begun activation (List.mem_of_mem_tail member)
  · rwa [report]
  · rwa [report]
  · exact entered?_of_begun
      (fun activation member => begun activation (List.mem_of_mem_head? member)) _

section Advance

variable {script : Script} {rest : List Instruction} {caller : Option (Pen × Scope)}
  {outer : List Activation}

/-- Carrying out an instruction begins its script. -/
theorem OnTour.begins {instruction : Instruction}
    (tour : stage.OnTour itinerary past (⟨script, instruction :: rest, caller⟩ :: outer) pass) :
    ∀ activation ∈ (⟨script, rest, caller⟩ :: outer : List Activation), activation.Begun := by
  rintro activation (_ | ⟨_, member⟩)
  · exact tour.within ⟨script, instruction :: rest, caller⟩ List.mem_cons_self
  · exact tour.begun activation member

/-- An instruction that refers to no script takes over no stop. -/
theorem OnTour.perform {instruction : Instruction}
    (tour : stage.OnTour itinerary past (⟨script, instruction :: rest, caller⟩ :: outer) pass)
    (plain : instruction.reference? = none) :
    stage.OnTour itinerary past (⟨script, rest, caller⟩ :: outer)
        (stage.perform none script.id instruction pass) ∧
      (Moment.walking (⟨script, rest, caller⟩ :: outer)
        (stage.perform none script.id instruction pass)).entered? = none := by
  have begins := tour.begins
  obtain ⟨linked, within, begun, whole, visited, refusals⟩ := tour
  have shorter : rest.length < script.instructions.length := begins _ List.mem_cons_self
  have within' := fun activation member => Nat.le_of_lt (begins activation member)
  refine ⟨⟨?_, within', begun, ?_, ?_, ?_⟩, ?_⟩
  · exact (stage.active_perform (by rintro _ ⟨⟩) script.id instruction pass).trans linked
  · rw [← pending_of_none shorter plain, whole]
  · rw [visited_perform plain, visited]
  · rw [refusals_perform plain, refusals]
  · exact entered?_of_begun
      (fun activation member => begins activation (List.mem_of_mem_head? member)) _

/-- A reference takes over one stop: it is followed, or refused with a warning. -/
theorem OnTour.follow (keyed : stage.scripts.Keyed) {target : String}
    (tour : stage.OnTour itinerary past (⟨script, .drawScript target :: rest, caller⟩ :: outer)
      pass) :
    ∃ activations after, ∃ stop : Stop,
      stage.follow script.id target (⟨script, rest, caller⟩ :: outer) pass =
          .walking activations after ∧
        stage.OnTour itinerary (past ++ [stop]) activations after ∧
        (Moment.walking activations after).entered? = stop.walked? := by
  have begins := tour.begins
  obtain ⟨linked, within, begun, whole, visited, refusals⟩ := tour
  obtain ⟨place, leadsHere, ahead⟩ :=
    stage.pending_reference (begins _ List.mem_cons_self) target outer
  have linked' : pass.active = chain (⟨script, rest, caller⟩ :: outer) := linked
  rw [ahead, ← linked'] at whole
  rw [follow_eq]
  cases leads : stage.scripts.onward stage.depthLimit pass.active script.id target with
  | error warning =>
      have refuses : warning.isRefusal = true := ScriptStore.isRefusal_of_onward leads
      rw [ScriptStore.stop_of_error leads] at whole
      refine ⟨_, _, (route outer ++ [place], .refused warning), rfl,
        ⟨linked', ?_, begun, ?_, ?_, ?_⟩, ?_⟩
      · exact fun activation member => Nat.le_of_lt (begins activation member)
      · rw [← whole, List.append_assoc]
      · simp [Pass.warn, ReplayReport.warn, visited, Stop.walked?]
      · simp [Pass.warn, ReplayReport.warn, refusals, Stop.warning?, refuses]
      · exact entered?_of_begun
          (fun activation member => begins activation (List.mem_of_mem_head? member)) _
  | ok next =>
      have identified : next.id = target :=
        keyed target next (ScriptStore.onward_eq_ok.1 leads).2.2
      rw [ScriptStore.stop_of_ok leads] at whole
      refine ⟨_, _, (route outer ++ [place], .walked (pass.active ++ [target])), rfl,
        ⟨?_, ?_, begins, ?_, ?_, ?_⟩, ?_⟩
      · rw [Pass.active_entering, chain, List.map_cons, List.reverse_cons, identified]
        exact congrArg (· ++ [target]) linked'
      · rintro activation (_ | ⟨_, member⟩)
        · exact Nat.le_refl _
        · exact Nat.le_of_lt (begins activation member)
      · rw [← whole, pending_entered, leadsHere, identified, ← linked', List.append_assoc]
        rfl
      · simp [Pass.entering, visited, Stop.walked?]
      · simp [Pass.entering, refusals, Stop.warning?]
      · simp [Moment.entered?, Stop.walked?, leadsHere, identified]

end Advance

/-! ### The whole replay -/

/-- A moment of a replay that has begun keeps to the itinerary, with the walks of `walks`
behind it. -/
def Toured (stage : Stage σ S) (itinerary : List Stop) (walks : List (List Nat × List String)) :
    Moment σ S → Prop
  | .start .. => False
  | .walking activations pass =>
      ∃ past, stage.OnTour itinerary past activations pass ∧ walks = past.filterMap Stop.walked?
  | .ended _ => True

/-- What one step preserves; a walk that it begins is added to those before. -/
theorem Toured.next (keyed : stage.scripts.Keyed) {walks : List (List Nat × List String)}
    {moment later : Moment σ S} (toured : stage.Toured itinerary walks moment)
    (step : stage.next root clear moment = some later) :
    stage.Toured itinerary (walks ++ later.entered?.toList) later := by
  cases moment with
  | start shaders surface => exact toured.elim
  | ended answer => cases step
  | walking activations pass =>
      obtain ⟨past, tour, rfl⟩ := toured
      cases activations with
      | nil =>
          simp only [Stage.next] at step
          split at step <;> cases step <;> trivial
      | cons innermost outer =>
          obtain ⟨script, rest, caller⟩ := innermost
          cases rest with
          | nil =>
              cases step
              obtain ⟨left, quiet⟩ := tour.leave
              rw [quiet]
              exact ⟨past, left, List.append_nil _⟩
          | cons instruction rest =>
              simp only [Stage.next] at step
              split at step <;> rename_i refers
              · cases step
                obtain ⟨performed, quiet⟩ := tour.perform refers
                rw [quiet]
                exact ⟨past, performed, List.append_nil _⟩
              · cases step
                rw [reference?_eq_some] at refers
                subst refers
                obtain ⟨activations, after, stop, same, followed, entered⟩ := tour.follow keyed
                rw [same, entered]
                refine ⟨past ++ [stop], followed, ?_⟩
                rw [List.filterMap_append]
                rfl

/-- Only a replay that has ended has no next moment. -/
theorem ended_of_next {moment : Moment σ S} (stops : stage.next root clear moment = none) :
    ∃ answer, moment = .ended answer := by
  cases moment with
  | ended answer => exact ⟨answer, rfl⟩
  | start shaders surface =>
      simp only [Stage.next] at stops
      split at stops
      · cases stops
      · split at stops <;> cases stops
  | walking activations pass =>
      cases activations with
      | nil =>
          simp only [Stage.next] at stops
          split at stops <;> cases stops
      | cons innermost outer =>
          obtain ⟨script, _ | ⟨instruction, rest⟩, caller⟩ := innermost
          · cases stops
          · simp only [Stage.next] at stops
            split at stops <;> cases stops

/-- What a whole run preserves. -/
theorem toured_after (keyed : stage.scripts.Keyed) {moment : Moment σ S}
    (toured : stage.Toured itinerary moment.entered?.toList moment) (steps : Nat) :
    stage.Toured itinerary (stage.walks root clear steps moment)
      (stage.after root clear steps moment) := by
  induction steps with
  | zero => exact toured
  | succ steps ih =>
      cases step : stage.next root clear (stage.after root clear steps moment) with
      | some later =>
          rw [walks_succ, after_succ steps step]
          exact ih.next keyed step
      | none =>
          obtain ⟨answer, ended⟩ := ended_of_next step
          have same : stage.after root clear (steps + 1) moment = .ended answer := by
            rw [after_add, ended]
            rfl
          rw [same]
          trivial

theorem walks_start {shaders : ShaderCache S} {surface : σ} {moment : Moment σ S}
    (begins : stage.next root clear (.start shaders surface) = some moment) (steps : Nat) :
    stage.walks root clear (steps + 1) (.start shaders surface) =
      stage.walks root clear steps moment := by
  rw [walks, List.range_succ_eq_map, List.filterMap_cons, List.filterMap_map]
  simp only [after, Moment.entered?, Function.comp_def, begins]
  rfl

section Root

variable {script : Script} (found : stage.scripts.find? root = some script)
  {shaders : ShaderCache S} {surface opened : σ}
  (begun : stage.canvas.beginFrame clear surface = (.ok (), opened))

include found begun

/-- A replay whose frame begins enters its root. -/
theorem next_start :
    stage.next root clear (.start shaders surface) =
      some (.walking [⟨script, script.instructions, none⟩]
        (Pass.entering script.id { surface := opened, shaders })) := by
  simp only [Stage.next, found, begun]

/-- At some moment all scripts are left. -/
theorem leads_done :
    stage.Leads root clear (.start shaders surface)
      (.walking [] (stage.walk (stage.depthLimit - 1) script { surface := opened, shaders })) := by
  refine (Leads.step (next_start found begun)).trans ?_
  refine unfolds (stage.depthLimit - 1) script none [] _ ⟨by simp, ?_⟩
  simp only [Pass.active_entering, List.nil_append, List.length_singleton]
  omega

/-- The answer of a replay is the report of the moment at which all scripts are left,
unless the frame fails to end. -/
theorem run_eq_report :
    let done := stage.walk (stage.depthLimit - 1) script { surface := opened, shaders }
    (stage.run root clear shaders surface).1 =
      ((stage.canvas.endFrame done.surface).1.mapError .canvas).map fun _ => done.report := by
  intro done
  simp only [run, found, begun]
  split <;> rename_i ended <;> rw [ended] <;> rfl

/-- When all scripts are left, the whole itinerary is behind. -/
theorem onTour_done (keyed : stage.scripts.Keyed) {steps : Nat} {done : Pass σ S}
    (finished : stage.after root clear steps (.start shaders surface) = .walking [] done) :
    let itinerary := stage.scripts.itinerary stage.depthLimit root script
    stage.OnTour itinerary itinerary [] done ∧
      stage.walks root clear steps (.start shaders surface) =
        itinerary.filterMap Stop.walked? := by
  intro itinerary
  have identified : script.id = root := keyed root script found
  have enters : stage.next root clear (.start shaders surface) = some _ := next_start found begun
  cases steps with
  | zero => cases finished
  | succ steps =>
      rw [walks_start enters]
      simp only [after, enters] at finished
      have rooted : stage.Toured itinerary [([], [root])] (.walking
          [⟨script, script.instructions, none⟩]
          (Pass.entering script.id { surface := opened, shaders })) := by
        refine ⟨[([], .walked [root])], ⟨rfl, by simp, by simp, ?_, rfl, rfl⟩, rfl⟩
        rw [pending_entered, identified]
        exact congrArg _ (List.append_nil _)
      have entered : (Moment.walking [⟨script, script.instructions, none⟩]
          (Pass.entering script.id { surface := opened, shaders } : Pass σ S)).entered? =
            some ([], [root]) := by
        simp [Moment.entered?, route, Pass.entering, identified]
      have toured : stage.Toured itinerary (stage.walks root clear steps _)
          (stage.after root clear steps _) := toured_after keyed (by rwa [entered]) steps
      rw [finished] at toured
      obtain ⟨past, tour, same⟩ := toured
      have whole : past = itinerary := (List.append_nil past).symm.trans tour.whole
      subst whole
      exact ⟨tour, same⟩

end Root

/-- **A replay walks the simple paths of references, depth first.** For every history of
the script store, every stored root and every depth limit, a replay whose frame begins
comes to a moment at which all scripts are left; its answer is the report of that moment,
unless the frame fails to end. The walks of the replay are the simple paths from the root
in depth-first order, and as many as the report counts; the warnings about references are
those of the references refused on these paths, one for each and in the same order. -/
theorem walks_follow_simple_paths (edits : List ScriptEdit) (canvas : Canvas σ S)
    (assets : AssetStore) (depthLimit : Nat) (root : String) (clear : Colour)
    (shaders : ShaderCache S) (surface : σ)
    (stored : (ScriptStore.edited edits).contains root = true)
    (begun : (canvas.beginFrame clear surface).1 = .ok ()) :
    let scripts := ScriptStore.edited edits
    let stage : Stage σ S := { canvas, scripts, assets, depthLimit }
    ∃ steps done stops,
      stage.after root clear steps (.start shaders surface) = .walking [] done ∧
        (stage.run root clear shaders surface).1 =
          ((canvas.endFrame done.surface).1.mapError .canvas).map (fun _ => done.report) ∧
        scripts.DepthFirst depthLimit root stops ∧
        stage.walks root clear steps (.start shaders surface) = stops.filterMap Stop.walked? ∧
        done.report.visited = (stage.walks root clear steps (.start shaders surface)).length ∧
        done.report.warnings.filter (·.isRefusal) = stops.filterMap Stop.warning? := by
  intro scripts stage
  have keyed : scripts.Keyed := ScriptStore.keyed_edited edits
  obtain ⟨script, found⟩ : ∃ script, stage.scripts.find? root = some script :=
    Option.isSome_iff_exists.1 stored
  obtain ⟨opened, opens⟩ : ∃ opened, stage.canvas.beginFrame clear surface = (.ok (), opened) :=
    ⟨_, Prod.ext begun rfl⟩
  obtain ⟨steps, finished⟩ := leads_done found opens
  obtain ⟨tour, walks⟩ := onTour_done found opens keyed finished
  refine ⟨steps, _, _, finished, run_eq_report found opens,
    ScriptStore.depthFirst_itinerary keyed found, walks, ?_, tour.refusals⟩
  rw [walks, tour.visited]

/-- Two references to one script, references below the depth limit, one back and one to
nowhere: a replay from `top` meets them all. -/
theorem diamond_walks_follow_simple_paths :
    let edits : List ScriptEdit :=
      [.put "top" [.drawScript "left", .pushState, .drawScript "right", .drawScript "gone"],
        .put "left" [.drawScript "leaf"], .put "right" [.drawScript "leaf", .drawScript "top"],
        .put "leaf" [.drawScript "deep"], .put "deep" []]
    let scripts := ScriptStore.edited edits
    let stage : Stage Recording Nat :=
      { canvas := Recording.canvas, scripts, assets := {}, depthLimit := 3 }
    scripts.contains "top" = true ∧ (Recording.canvas.beginFrame Colour.black {}).1 = .ok () ∧
      ∃ steps done stops,
        stage.after "top" Colour.black steps (.start {} {}) = .walking [] done ∧
          scripts.DepthFirst 3 "top" stops ∧
          stage.walks "top" Colour.black steps (.start {} {}) = stops.filterMap Stop.walked? ∧
          done.report.warnings.filter (·.isRefusal) = stops.filterMap Stop.warning? := by
  intro edits scripts stage
  refine ⟨by rfl, by rfl, ?_⟩
  obtain ⟨steps, done, stops, finished, -, enumerated, walks, -, warnings⟩ :=
    walks_follow_simple_paths edits Recording.canvas {} 3 "top" Colour.black {} {} (by rfl) (by rfl)
  exact ⟨steps, done, stops, finished, enumerated, walks, warnings⟩

/-- What a replay of such a graph reports. -/
example :
    let scripts := ScriptStore.edited
      [.put "top" [.drawScript "left", .pushState, .drawScript "right", .drawScript "gone"],
        .put "left" [.drawScript "leaf"], .put "right" [.drawScript "leaf", .drawScript "top"],
        .put "leaf" [.drawScript "deep"], .put "deep" []]
    let stage : Stage Recording Nat :=
      { canvas := Recording.canvas, scripts, assets := {}, depthLimit := 3 }
    (stage.run "top" Colour.black {} {}).1 =
      .ok
        { visited := 5
          warnings :=
            [.depthExceeded "deep" 3, .depthExceeded "deep" 3,
              .cycleDetected ["top", "right", "top"], .danglingReference "top" "gone"] } := by
  rfl

end Stage

end ScenePlayer
