import Mathlib.Algebra.Order.Ring.Nat
import ScenePlayer.DirtyFlag

/-!
A dirty flag shared by threads. Any number of threads mark and take, and their atomic
steps come in any order (`SharedFlag.run`). Each event is counted once: what the takes
have harvested and what is pending add up to the events counted, whatever the order.
No event is lost: pending events leave the flag up, unless a thread is still between
the two steps of a mark or a take (`SharedFlag.interleaving_counts_each_event`).

A take may harvest an event whose mark raises the flag only afterwards. The next take
then finds the flag up and harvests nothing.
-/

namespace ScenePlayer

/-- Where a thread stands in its calls. -/
inductive ThreadPhase where
  | idle
  /-- Its mark has counted and has not raised the flag yet. -/
  | marking
  /-- Its take has lowered the flag and has not harvested yet. -/
  | taking
  deriving DecidableEq, Repr

/-- The atomic steps of marks and takes. -/
inductive FlagStep where
  | count
  | raise
  | lower
  | harvest
  deriving DecidableEq, Repr

/-- A flag, the threads that share it and what their takes have answered. -/
structure SharedFlag (ι : Type) where
  flag : DirtyFlag := {}
  phase : ι → ThreadPhase := fun _ => .idle
  /-- The answers of the takes that are over, latest first. -/
  answers : List (Option Nat) := []

theorem DirtyFlag.lower_of_clean {flag : DirtyFlag} (clean : flag.dirty = false) :
    flag.lower = (false, flag) := by
  obtain ⟨dirty, pending⟩ := flag
  cases clean
  rfl

namespace SharedFlag

variable {ι : Type} [DecidableEq ι]

def setPhase (thread : ι) (phase : ThreadPhase) (shared : SharedFlag ι) : SharedFlag ι :=
  { shared with phase := Function.update shared.phase thread phase }

/-- One atomic step of a thread. There is none unless it is the thread's next: a mark
counts and then raises; a take lowers and, if the flag was up, harvests. -/
def step? (shared : SharedFlag ι) (thread : ι) : FlagStep → Option (SharedFlag ι)
  | .count =>
      if shared.phase thread = .idle then
        some ({ shared with flag := shared.flag.count }.setPhase thread .marking)
      else none
  | .raise =>
      if shared.phase thread = .marking then
        some ({ shared with flag := shared.flag.raise }.setPhase thread .idle)
      else none
  | .lower =>
      if shared.phase thread = .idle then
        match shared.flag.lower with
        | (true, flag) => some ({ shared with flag }.setPhase thread .taking)
        | (false, flag) => some { shared with flag, answers := none :: shared.answers }
      else none
  | .harvest =>
      if shared.phase thread = .taking then
        let (events, flag) := shared.flag.harvest
        some ({ shared with flag, answers := some events :: shared.answers }.setPhase thread .idle)
      else none

/-- The steps of threads in a given order. -/
def run : List (ι × FlagStep) → SharedFlag ι → Option (SharedFlag ι)
  | [], shared => some shared
  | (thread, step) :: rest, shared => (shared.step? thread step).bind (run rest)

/-- What all takes have harvested so far. -/
def harvested (shared : SharedFlag ι) : Nat := (shared.answers.filterMap id).sum

/-- How many events have been counted by some steps. -/
def counted (steps : List (ι × FlagStep)) : Nat := steps.countP (·.2 = .count)

/-! ### Calls as steps -/

/-- A mark is its two steps with nothing in between. -/
theorem run_mark {shared : SharedFlag ι} {thread : ι} (idle : shared.phase thread = .idle) :
    run [(thread, .count), (thread, .raise)] shared =
      some { shared with flag := shared.flag.mark } := by
  simp [run, step?, setPhase, idle, DirtyFlag.mark]

/-- A take is its steps with nothing in between. -/
theorem run_take {shared : SharedFlag ι} {thread : ι} (idle : shared.phase thread = .idle) :
    run ((thread, .lower) :: if shared.flag.dirty then [(thread, .harvest)] else []) shared =
      some { shared with
        flag := shared.flag.take.2
        answers := shared.flag.take.1 :: shared.answers } := by
  cases up : shared.flag.dirty with
  | false => simp [run, step?, idle, DirtyFlag.lower_of_clean up, DirtyFlag.take_of_clean up]
  | true =>
      simp [run, step?, setPhase, idle, up, DirtyFlag.lower, DirtyFlag.harvest,
        DirtyFlag.take_of_dirty up]

/-! ### One step -/

/-- What a step of a thread does. -/
inductive Effect (shared : SharedFlag ι) (thread : ι) : FlagStep → SharedFlag ι → Prop where
  | count (idle : shared.phase thread = .idle) :
      Effect shared thread .count
        ({ shared with flag := shared.flag.count }.setPhase thread .marking)
  | raise (marking : shared.phase thread = .marking) :
      Effect shared thread .raise
        ({ shared with flag := shared.flag.raise }.setPhase thread .idle)
  | lower (idle : shared.phase thread = .idle) (up : shared.flag.dirty = true) :
      Effect shared thread .lower
        ({ shared with flag := { shared.flag with dirty := false } }.setPhase thread .taking)
  | miss (idle : shared.phase thread = .idle) (down : shared.flag.dirty = false) :
      Effect shared thread .lower { shared with answers := none :: shared.answers }
  | harvest (taking : shared.phase thread = .taking) :
      Effect shared thread .harvest
        ({ shared with
            flag := { shared.flag with pending := 0 }
            answers := some shared.flag.pending :: shared.answers }.setPhase thread .idle)

theorem effect_of_step? {shared later : SharedFlag ι} {thread : ι} {step : FlagStep}
    (stepped : shared.step? thread step = some later) : shared.Effect thread step later := by
  cases step with
  | count =>
      obtain ⟨idle, rfl⟩ := by simpa [step?] using stepped
      exact .count idle
  | raise =>
      obtain ⟨marking, rfl⟩ := by simpa [step?] using stepped
      exact .raise marking
  | lower =>
      obtain ⟨⟨dirty, pending⟩, phase, answers⟩ := shared
      cases dirty with
      | false =>
          obtain ⟨idle, rfl⟩ := by simpa [step?, DirtyFlag.lower] using stepped
          exact .miss idle rfl
      | true =>
          obtain ⟨idle, rfl⟩ := by simpa [step?, DirtyFlag.lower] using stepped
          exact .lower idle rfl
  | harvest =>
      obtain ⟨taking, rfl⟩ := by simpa [step?, DirtyFlag.harvest] using stepped
      exact .harvest taking

/-- All that holds between the steps of threads that have counted `events` events. -/
structure Accounted (events : Nat) (shared : SharedFlag ι) : Prop where
  /-- Each event has been harvested or is pending. -/
  balance : shared.harvested + shared.flag.pending = events
  /-- Where events are pending, the flag is up or some thread is between two steps. -/
  awake : 0 < shared.flag.pending →
    shared.flag.dirty = true ∨ ∃ thread, shared.phase thread ≠ .idle

omit [DecidableEq ι] in
theorem accounted_start : Accounted 0 ({} : SharedFlag ι) where
  balance := rfl
  awake := by rintro ⟨⟩

theorem Accounted.effect {events : Nat} {shared later : SharedFlag ι} {thread : ι}
    {step : FlagStep} (accounted : shared.Accounted events)
    (effect : shared.Effect thread step later) :
    later.Accounted (events + if step = .count then 1 else 0) := by
  obtain ⟨balance, awake⟩ := accounted
  cases effect with
  | count =>
      refine ⟨?_, fun _ => .inr ⟨thread, by simp [setPhase]⟩⟩
      show shared.harvested + (shared.flag.pending + 1) = events + 1
      omega
  | raise => exact ⟨balance, fun _ => .inl rfl⟩
  | lower => exact ⟨balance, fun _ => .inr ⟨thread, by simp [setPhase]⟩⟩
  | miss => exact ⟨balance, awake⟩
  | harvest =>
      refine ⟨?_, by rintro ⟨⟩⟩
      show shared.flag.pending + shared.harvested + 0 = events
      omega

/-- Only a take's first step lowers the flag. -/
theorem Effect.dirty {shared later : SharedFlag ι} {thread : ι} {step : FlagStep}
    (effect : shared.Effect thread step later) (keeps : step ≠ .lower)
    (up : shared.flag.dirty = true) : later.flag.dirty = true := by
  cases effect with
  | count => exact up
  | raise => rfl
  | lower => exact absurd rfl keeps
  | miss => exact absurd rfl keeps
  | harvest => exact up

/-! ### Runs -/

theorem run_append (first second : List (ι × FlagStep)) (shared : SharedFlag ι) :
    run (first ++ second) shared = (run first shared).bind (run second) := by
  induction first generalizing shared with
  | nil => rfl
  | cons head rest ih =>
      rw [List.cons_append, run, run, Option.bind_assoc]
      exact congrArg _ (funext ih)

omit [DecidableEq ι] in
theorem counted_cons (head : ι × FlagStep) (rest : List (ι × FlagStep)) :
    counted (head :: rest) = (if head.2 = .count then 1 else 0) + counted rest := by
  simp [counted, List.countP_cons, Nat.add_comm]

theorem Accounted.run {events : Nat} {shared later : SharedFlag ι} {steps : List (ι × FlagStep)}
    (accounted : shared.Accounted events) (ran : SharedFlag.run steps shared = some later) :
    later.Accounted (events + counted steps) := by
  induction steps generalizing events shared with
  | nil =>
      cases ran
      exact accounted
  | cons head rest ih =>
      obtain ⟨next, stepped, ran⟩ := Option.bind_eq_some_iff.1 ran
      have after := ih (accounted.effect (effect_of_step? stepped)) ran
      rwa [Nat.add_assoc, ← counted_cons] at after

/-- The flag stays up as long as no take begins. -/
theorem dirty_of_run {shared later : SharedFlag ι} {steps : List (ι × FlagStep)}
    (ran : run steps shared = some later) (untaken : ∀ step ∈ steps, step.2 ≠ .lower)
    (up : shared.flag.dirty = true) : later.flag.dirty = true := by
  induction steps generalizing shared with
  | nil =>
      cases ran
      exact up
  | cons head rest ih =>
      obtain ⟨next, stepped, ran⟩ := Option.bind_eq_some_iff.1 ran
      obtain ⟨first, others⟩ := List.forall_mem_cons.1 untaken
      exact ih ran others ((effect_of_step? stepped).dirty first up)

/-- **Every interleaving counts each event once and loses none.** For any threads and
any order of their atomic steps: what all takes have harvested and what is pending add
up to the events counted. The flag is up if a mark has raised it and no take has begun
since. Where events are pending, the flag is up or some thread is between the two steps
of a mark or a take. -/
theorem interleaving_counts_each_event (steps : List (ι × FlagStep)) {shared : SharedFlag ι}
    (ran : run steps {} = some shared) :
    shared.harvested + shared.flag.pending = counted steps ∧
      (∀ before thread since, steps = before ++ (thread, .raise) :: since →
        (∀ step ∈ since, step.2 ≠ .lower) → shared.flag.dirty = true) ∧
      (0 < shared.flag.pending →
        shared.flag.dirty = true ∨ ∃ thread, shared.phase thread ≠ .idle) := by
  have accounted := accounted_start.run ran
  rw [Nat.zero_add] at accounted
  refine ⟨accounted.balance, ?_, accounted.awake⟩
  rintro before thread since rfl untaken
  rw [run_append] at ran
  obtain ⟨marked, -, ran⟩ := Option.bind_eq_some_iff.1 ran
  obtain ⟨raised, stepped, ran⟩ := Option.bind_eq_some_iff.1 ran
  refine dirty_of_run ran untaken ?_
  cases effect_of_step? stepped with
  | raise => rfl

/-- Two marks and two takes of three threads: the first take harvests both events, the
later mark raises the flag again, and the second take harvests nothing. -/
theorem interleaving_counts_late_mark :
    let steps : List (Nat × FlagStep) :=
      [(0, .count), (1, .count), (1, .raise), (2, .lower), (2, .harvest), (0, .raise),
        (2, .lower), (2, .harvest), (0, .count)]
    ∃ shared, run steps {} = some shared ∧ shared.answers = [some 0, some 2] ∧
      shared.harvested + shared.flag.pending = 3 ∧
      (shared.flag.dirty = true ∨ ∃ thread, shared.phase thread ≠ .idle) := by
  intro steps
  have ran : run steps {} = some ((run steps {}).get rfl) := (Option.some_get _).symm
  obtain ⟨balance, -, awake⟩ := interleaving_counts_each_event steps ran
  exact ⟨_, ran, rfl, balance, awake (by decide)⟩

end SharedFlag

end ScenePlayer
