import Mathlib.Data.List.Basic
import ScenePlayer.Proofs.Replay.Change
import ScenePlayer.Proofs.Script.Edits

/-!
Paths of references through a script store. `ScriptStore.Path` says what a path is,
with no word about replays: from a stored root, each script has at some place a
reference to the next one, which is stored too. A replay follows the simple paths:
those without repetition and within the depth limit.

`ScriptStore.DepthFirst` says when a list is the enumeration of the simple paths and of
the references refused on them: it holds exactly these, in the strict lexicographic
order of the places that lead to them, which is depth first and in the order of the
instructions. There is one such list (`DepthFirst.unique`), and `ScriptStore.itinerary`
computes it (`depthFirst_itinerary`).
-/

namespace ScenePlayer

/-! ### References of a script -/

/-- The references among some instructions, each with its place; the first
instruction stands at `place`. -/
def references (place : Nat) (instructions : List Instruction) : List (Nat × String) :=
  (instructions.zipIdx place).filterMap fun entry =>
    entry.1.reference?.map fun target => (entry.2, target)

theorem references_cons_of_none {instruction : Instruction}
    (plain : instruction.reference? = none) (place : Nat) (rest : List Instruction) :
    references place (instruction :: rest) = references (place + 1) rest := by
  simp [references, plain]

theorem references_cons (place : Nat) (target : String) (rest : List Instruction) :
    references place (.drawScript target :: rest) =
      (place, target) :: references (place + 1) rest := by
  simp [references, Instruction.reference?]

theorem mem_references {instructions : List Instruction} {place : Nat} {target : String} :
    (place, target) ∈ references 0 instructions ↔
      instructions[place]? = some (.drawScript target) := by
  simp only [references, List.mem_filterMap, Option.map_eq_some_iff, Prod.mk.injEq, Prod.exists,
    List.mem_zipIdx_iff_getElem?]
  constructor
  · rintro ⟨instruction, _, member, _, refers, rfl, rfl⟩
    rw [member, reference?_eq_some.1 refers]
  · intro member
    exact ⟨_, place, member, target, rfl, rfl, rfl⟩

theorem pairwise_references (place : Nat) (instructions : List Instruction) :
    (references place instructions).Pairwise fun first second => first.1 < second.1 := by
  have places : (instructions.zipIdx place).Pairwise fun first second => first.2 < second.2 := by
    rw [← List.pairwise_map (f := Prod.snd), List.zipIdx_map_snd]
    exact List.pairwise_lt_range'
  refine places.filterMap _ ?_
  intro first second before reference referred other refers
  obtain ⟨target, -, rfl⟩ := Option.map_eq_some_iff.1 referred
  obtain ⟨target, -, rfl⟩ := Option.map_eq_some_iff.1 refers
  exact before

/-! ### Paths of references -/

namespace ScriptStore

/-- `caller` is the last script of `chain`, and at `place` it refers to `target`. -/
structure Refers (store : ScriptStore) (chain : List String) (caller : String) (place : Nat)
    (target : String) : Prop where
  last : chain.getLast? = some caller
  instruction : ∃ script, store.find? caller = some script ∧
    script.instructions[place]? = some (.drawScript target)

/-- A path of references from `root`: the places of the references that it takes, one in
each script that it goes on from, and the scripts that it passes, the root included. -/
inductive Path (store : ScriptStore) (root : String) : List Nat → List String → Prop where
  | start (stored : store.contains root = true) : Path store root [] [root]
  | follow {places : List Nat} {chain : List String} {caller : String} {place : Nat}
      {target : String} (path : Path store root places chain)
      (refers : store.Refers chain caller place target)
      (stored : store.contains target = true) :
      Path store root (places ++ [place]) (chain ++ [target])

/-- A path that passes no script twice and no more scripts than `limit`, but the root
in any case. -/
structure SimplePath (store : ScriptStore) (limit : Nat) (root : String) (places : List Nat)
    (chain : List String) : Prop where
  path : store.Path root places chain
  distinct : chain.Nodup
  bounded : chain.length ≤ max limit 1

/-- The script to which a reference leads on from the scripts of `chain`, or why the
reference is refused. -/
def onward (store : ScriptStore) (limit : Nat) (chain : List String) (caller target : String) :
    Except ReplayWarning Script :=
  if target ∈ chain then .error (.cycleDetected (chain ++ [target]))
  else if limit ≤ chain.length then .error (.depthExceeded target chain.length)
  else
    match store.find? target with
    | none => .error (.danglingReference caller target)
    | some script => .ok script

/-- A reference on a simple path, by the places that lead to it, and the warning that
refuses it. -/
inductive Refused (store : ScriptStore) (limit : Nat) (root : String) :
    List Nat → ReplayWarning → Prop where
  | intro {places : List Nat} {chain : List String} {caller : String} {place : Nat}
      {target : String} {warning : ReplayWarning}
      (path : store.SimplePath limit root places chain)
      (refers : store.Refers chain caller place target)
      (refused : store.onward limit chain caller target = .error warning) :
      Refused store limit root (places ++ [place]) warning

variable {store : ScriptStore} {limit : Nat} {root : String}

theorem onward_eq_ok {chain : List String} {caller target : String} {script : Script} :
    store.onward limit chain caller target = .ok script ↔
      target ∉ chain ∧ chain.length < limit ∧ store.find? target = some script := by
  unfold onward
  split
  · simp_all
  · split
    · rename_i full
      simp only [reduceCtorEq, false_iff, not_and]
      omega
    · split <;> simp_all

theorem isRefusal_of_onward {chain : List String} {caller target : String}
    {warning : ReplayWarning}
    (refused : store.onward limit chain caller target = .error warning) :
    warning.isRefusal = true := by
  unfold onward at refused
  split at refused
  · cases refused
    rfl
  · split at refused
    · cases refused
      rfl
    · split at refused <;> cases refused
      rfl

theorem Path.nonempty {places : List Nat} {chain : List String}
    (path : store.Path root places chain) : 0 < chain.length := by
  cases path <;> simp

/-- The scripts that a path passes before its last one are distinct if all are. -/
theorem SimplePath.of_follow {places : List Nat} {chain : List String} {place : Nat}
    {target : String} (path : store.Path root places chain)
    (simple : store.SimplePath limit root (places ++ [place]) (chain ++ [target])) :
    store.SimplePath limit root places chain where
  path := path
  distinct := (List.nodup_append.1 simple.distinct).1
  bounded := by
    have bounded := simple.bounded
    rw [List.length_append] at bounded
    omega

/-- A path stays simple along a reference that leads on. -/
theorem SimplePath.follow {places : List Nat} {chain : List String} {caller : String}
    {place : Nat} {target : String} {script : Script}
    (simple : store.SimplePath limit root places chain)
    (refers : store.Refers chain caller place target)
    (leads : store.onward limit chain caller target = .ok script) :
    store.SimplePath limit root (places ++ [place]) (chain ++ [target]) := by
  obtain ⟨fresh, room, found⟩ := onward_eq_ok.1 leads
  refine ⟨.follow simple.path refers (contains_of_find? found), ?_, ?_⟩
  · refine List.nodup_append.2 ⟨simple.distinct, by simp, ?_⟩
    rintro id member _ (_ | ⟨_, ⟨⟩⟩) rfl
    exact fresh member
  · rw [List.length_append, List.length_singleton]
    omega

/-- On a path that stays simple the reference leads on. -/
theorem SimplePath.onward {places : List Nat} {chain : List String} {place : Nat}
    {target : String}
    (simple : store.SimplePath limit root (places ++ [place]) (chain ++ [target]))
    (caller : String) (path : store.Path root places chain)
    (stored : store.contains target = true) :
    ∃ script, store.onward limit chain caller target = .ok script := by
  obtain ⟨script, found⟩ := Option.isSome_iff_exists.1 stored
  refine ⟨script, onward_eq_ok.2 ⟨?_, ?_, found⟩⟩
  · intro member
    exact (List.nodup_append.1 simple.distinct).2.2 target member target (by simp) rfl
  · have positive := path.nonempty
    have bounded := simple.bounded
    rw [List.length_append, List.length_singleton] at bounded
    omega

end ScriptStore

/-! ### Stops -/

/-- What becomes of a reference. -/
inductive Fate where
  /-- It is followed, along the scripts of `chain`. -/
  | walked (chain : List String)
  | refused (warning : ReplayWarning)
  deriving DecidableEq, Repr

/-- A reference, by the places that lead to it, and what becomes of it. -/
abbrev Stop : Type := List Nat × Fate

/-- The path that a stop leads on along. -/
def Stop.walked? : Stop → Option (List Nat × List String)
  | (places, .walked chain) => some (places, chain)
  | (_, .refused _) => none

/-- The warning that a stop gives. -/
def Stop.warning? : Stop → Option ReplayWarning
  | (_, .walked _) => none
  | (_, .refused warning) => some warning

namespace ScriptStore

/-- The enumeration of the simple paths, and of the references refused on them, depth
first and in the order of the instructions. -/
structure DepthFirst (store : ScriptStore) (limit : Nat) (root : String) (stops : List Stop) :
    Prop where
  ordered : stops.Pairwise fun first second => first.1 < second.1
  walked : ∀ places chain,
    (places, .walked chain) ∈ stops ↔ store.SimplePath limit root places chain
  refused : ∀ places warning,
    (places, .refused warning) ∈ stops ↔ store.Refused limit root places warning

/-- There is only one such enumeration. -/
theorem DepthFirst.unique {store : ScriptStore} {limit : Nat} {root : String}
    {stops others : List Stop} (left : store.DepthFirst limit root stops)
    (right : store.DepthFirst limit root others) : stops = others := by
  have same : ∀ stop, stop ∈ stops ↔ stop ∈ others := by
    rintro ⟨places, chain | warning⟩
    · rw [left.walked, right.walked]
    · rw [left.refused, right.refused]
  have distinct : ∀ {stops : List Stop}, (stops.Pairwise fun first second => first.1 < second.1) →
      stops.Nodup := by
    intro stops ordered
    refine ordered.imp fun {first second} before equal => ?_
    rw [equal] at before
    exact List.lt_irrefl _ before
  have permuted :=
    (List.perm_ext_iff_of_nodup (distinct left.ordered) (distinct right.ordered)).2 same
  exact permuted.eq_of_pairwise
    (fun first second _ _ before after => absurd before (List.lt_asymm after))
    left.ordered right.ordered

/-- What becomes of the references of `script`, the last one of `chain`, and of those
of the scripts to which they lead. -/
def stops (store : ScriptStore) (limit : Nat) (places : List Nat) (chain : List String)
    (script : Script) : List Stop :=
  (references 0 script.instructions).flatMap fun reference =>
    match leads : store.onward limit chain script.id reference.2 with
    | .error warning => [(places ++ [reference.1], .refused warning)]
    | .ok next =>
        (places ++ [reference.1], .walked (chain ++ [reference.2])) ::
          stops store limit (places ++ [reference.1]) (chain ++ [reference.2]) next
termination_by limit - chain.length
decreasing_by
  have room := (onward_eq_ok.1 leads).2.1
  rw [List.length_append, List.length_singleton]
  omega

/-- What becomes of a reference at `place` of `caller`, and of those below it. -/
def stop (store : ScriptStore) (limit : Nat) (places : List Nat) (chain : List String)
    (caller : String) (reference : Nat × String) : List Stop :=
  match store.onward limit chain caller reference.2 with
  | .error warning => [(places ++ [reference.1], .refused warning)]
  | .ok next =>
      (places ++ [reference.1], .walked (chain ++ [reference.2])) ::
        store.stops limit (places ++ [reference.1]) (chain ++ [reference.2]) next

/-- What becomes of the root and of all references on simple paths. -/
def itinerary (store : ScriptStore) (limit : Nat) (root : String) (script : Script) : List Stop :=
  ([], .walked [root]) :: store.stops limit [] [root] script

variable {store : ScriptStore} {limit : Nat} {root : String}

theorem stops_eq (places : List Nat) (chain : List String) (script : Script) :
    store.stops limit places chain script =
      (references 0 script.instructions).flatMap (store.stop limit places chain script.id) := by
  rw [stops]
  congr 1
  funext reference
  unfold stop
  split <;> rename_i leads <;> simp only [leads]

theorem stop_of_error {chain : List String} {caller target : String} {warning : ReplayWarning}
    (refused : store.onward limit chain caller target = .error warning) (places : List Nat)
    (place : Nat) :
    store.stop limit places chain caller (place, target) =
      [(places ++ [place], .refused warning)] := by
  simp only [stop, refused]

theorem stop_of_ok {chain : List String} {caller target : String} {next : Script}
    (leads : store.onward limit chain caller target = .ok next) (places : List Nat)
    (place : Nat) :
    store.stop limit places chain caller (place, target) =
      (places ++ [place], .walked (chain ++ [target])) ::
        store.stops limit (places ++ [place]) (chain ++ [target]) next := by
  simp only [stop, leads]

theorem mem_stops {places : List Nat} {chain : List String} {script : Script} {e : Stop} :
    e ∈ store.stops limit places chain script ↔
      ∃ place target, script.instructions[place]? = some (.drawScript target) ∧
        e ∈ store.stop limit places chain script.id (place, target) := by
  rw [stops_eq, List.mem_flatMap]
  constructor
  · rintro ⟨⟨place, target⟩, member, inside⟩
    exact ⟨place, target, mem_references.1 member, inside⟩
  · rintro ⟨place, target, member, inside⟩
    exact ⟨(place, target), mem_references.2 member, inside⟩

/-- The stops below a script are a property of the scripts on the way, one of which is
added at each level: to prove something of all, prove it for one level from the next. -/
theorem stops_induction (store : ScriptStore) (limit : Nat)
    {P : List Nat → List String → Script → Prop}
    (level : ∀ places chain script,
      (∀ place target next, store.onward limit chain script.id target = .ok next →
        P (places ++ [place]) (chain ++ [target]) next) → P places chain script)
    (places : List Nat) (chain : List String) (script : Script) : P places chain script := by
  induction room : limit - chain.length using Nat.strongRecOn generalizing places chain script with
  | ind left ih =>
      refine level places chain script fun place target next leads => ?_
      have more := (onward_eq_ok.1 leads).2.1
      refine ih _ ?_ _ _ _ rfl
      rw [List.length_append, List.length_singleton]
      omega

/-! ### The order of the stops -/

theorem places_of_mem_stop {places : List Nat} {chain : List String} {caller target : String}
    {place : Nat} {e : Stop} (member : e ∈ store.stop limit places chain caller (place, target)) :
    ∃ more, e.1 = places ++ place :: more := by
  have below : ∀ places chain script, ∀ e ∈ store.stops limit places chain script,
      ∃ more, e.1 = places ++ more := by
    intro places chain script
    induction places, chain, script using stops_induction store limit with
    | level places chain script ih
    intro e member
    obtain ⟨place, target, -, inside⟩ := mem_stops.1 member
    cases leads : store.onward limit chain script.id target with
    | error warning =>
        rw [stop_of_error leads, List.mem_singleton] at inside
        exact ⟨[place], by rw [inside]⟩
    | ok next =>
        rw [stop_of_ok leads, List.mem_cons] at inside
        rcases inside with rfl | inside
        · exact ⟨[place], rfl⟩
        · obtain ⟨more, same⟩ := ih place target next leads e inside
          exact ⟨place :: more, by rw [same, List.append_assoc, List.singleton_append]⟩
  cases leads : store.onward limit chain caller target with
  | error warning =>
      rw [stop_of_error leads, List.mem_singleton] at member
      exact ⟨[], by rw [member]⟩
  | ok next =>
      rw [stop_of_ok leads, List.mem_cons] at member
      rcases member with rfl | member
      · exact ⟨[], rfl⟩
      · obtain ⟨more, same⟩ := below _ _ _ e member
        exact ⟨more, by rw [same, List.append_assoc, List.singleton_append]⟩

/-- Stops of one script come in the order of its references, and each reference comes
before those of the script that it leads to. -/
theorem pairwise_stops (places : List Nat) (chain : List String) (script : Script) :
    (store.stops limit places chain script).Pairwise fun e f => e.1 < f.1 := by
  induction places, chain, script using stops_induction store limit with
  | level places chain script ih
  rw [stops_eq, List.pairwise_flatMap]
  constructor
  · rintro ⟨place, target⟩ -
    cases leads : store.onward limit chain script.id target with
    | error warning =>
        rw [stop_of_error leads]
        exact List.pairwise_singleton _ _
    | ok next =>
        rw [stop_of_ok leads, List.pairwise_cons]
        refine ⟨fun e member => ?_, ih place target next leads⟩
        obtain ⟨deeper, _, -, inside⟩ := mem_stops.1 member
        obtain ⟨more, same⟩ := places_of_mem_stop inside
        have longer : (places ++ [place]) ++ [] < (places ++ [place]) ++ deeper :: more :=
          List.append_left_lt (List.nil_lt_cons deeper more)
        rwa [List.append_nil, ← same] at longer
  · refine (pairwise_references 0 script.instructions).imp ?_
    rintro ⟨place, target⟩ ⟨later, other⟩ before e first f second
    obtain ⟨more, same⟩ := places_of_mem_stop first
    obtain ⟨rest, also⟩ := places_of_mem_stop second
    rw [same, also]
    exact List.append_left_lt (List.cons_lt_cons_iff.2 (.inl before))

theorem pairwise_itinerary (script : Script) :
    (store.itinerary limit root script).Pairwise fun e f => e.1 < f.1 := by
  refine List.pairwise_cons.2 ⟨fun e member => ?_, pairwise_stops _ _ _⟩
  obtain ⟨place, _, -, inside⟩ := mem_stops.1 member
  obtain ⟨more, same⟩ := places_of_mem_stop inside
  rw [same, List.nil_append]
  exact List.nil_lt_cons place more

/-! ### Which stops there are -/

/-- What becomes of a reference, on its own. -/
def fate (store : ScriptStore) (limit : Nat) (chain : List String) (caller target : String) :
    Fate :=
  match store.onward limit chain caller target with
  | .error warning => .refused warning
  | .ok _ => .walked (chain ++ [target])

theorem fate_mem_stop (places : List Nat) (chain : List String) (caller target : String)
    (place : Nat) :
    (places ++ [place], store.fate limit chain caller target) ∈
      store.stop limit places chain caller (place, target) := by
  unfold fate
  cases leads : store.onward limit chain caller target with
  | error warning => simp only [stop_of_error leads, List.mem_singleton]
  | ok next => simp only [stop_of_ok leads, List.mem_cons_self]

/-- Once a path is among the stops, so is what becomes of each reference of its last
script. -/
theorem fate_mem_stops {places : List Nat} {chain : List String} {script : Script}
    (last : chain.getLast? = some script.id) (found : store.find? script.id = some script)
    (keyed : store.Keyed) {ahead : List Nat} {further : List String} {caller target : String}
    {place : Nat}
    (passed : (ahead, .walked further) ∈
      (places, .walked chain) :: store.stops limit places chain script)
    (refers : store.Refers further caller place target) :
    (ahead ++ [place], store.fate limit further caller target) ∈
      store.stops limit places chain script := by
  induction places, chain, script using stops_induction store limit with
  | level places chain script ih
  rcases List.mem_cons.1 passed with here | below
  · cases here
    obtain ⟨ends, other, stored, instruction⟩ := refers
    cases last.symm.trans ends
    cases found.symm.trans stored
    exact mem_stops.2 ⟨place, target, instruction, fate_mem_stop _ _ _ _ _⟩
  · obtain ⟨step, name, instruction, inside⟩ := mem_stops.1 below
    refine mem_stops.2 ⟨step, name, instruction, ?_⟩
    cases leads : store.onward limit chain script.id name with
    | error warning =>
        rw [stop_of_error leads, List.mem_singleton] at inside
        cases inside
    | ok next =>
        rw [stop_of_ok leads] at inside ⊢
        have stored := (onward_eq_ok.1 leads).2.2
        have identified : next.id = name := keyed name next stored
        refine List.mem_cons_of_mem _ (ih step name next leads ?_ ?_ inside)
        · rw [List.getLast?_concat, identified]
        · rwa [identified]

/-- What the places and the fate of a stop say is so. -/
def Sound (store : ScriptStore) (limit : Nat) (root : String) : Stop → Prop
  | (places, .walked chain) => store.SimplePath limit root places chain
  | (places, .refused warning) => store.Refused limit root places warning

theorem sound_of_mem_stops {places : List Nat} {chain : List String} {script : Script}
    (simple : store.SimplePath limit root places chain) (last : chain.getLast? = some script.id)
    (found : store.find? script.id = some script) (keyed : store.Keyed) :
    ∀ e ∈ store.stops limit places chain script, store.Sound limit root e := by
  induction places, chain, script using stops_induction store limit with
  | level places chain script ih
  intro e member
  obtain ⟨place, target, instruction, inside⟩ := mem_stops.1 member
  have refers : store.Refers chain script.id place target := ⟨last, script, found, instruction⟩
  cases leads : store.onward limit chain script.id target with
  | error warning =>
      rw [stop_of_error leads, List.mem_singleton] at inside
      rw [inside]
      exact .intro simple refers leads
  | ok next =>
      have stored := (onward_eq_ok.1 leads).2.2
      have identified : next.id = target := keyed target next stored
      have extended := simple.follow refers leads
      rw [stop_of_ok leads] at inside
      rcases List.mem_cons.1 inside with rfl | below
      · exact extended
      · refine ih place target next leads extended ?_ ?_ e below
        · rw [List.getLast?_concat, identified]
        · rwa [identified]

section Itinerary

variable {script : Script} (keyed : store.Keyed) (found : store.find? root = some script)

include keyed found

theorem sound_of_mem_itinerary : ∀ e ∈ store.itinerary limit root script,
    store.Sound limit root e := by
  have identified : script.id = root := keyed root script found
  have simple : store.SimplePath limit root [] [root] :=
    ⟨.start (contains_of_find? found), by simp, Nat.le_max_right _ _⟩
  intro e member
  rcases List.mem_cons.1 member with rfl | below
  · exact simple
  · refine sound_of_mem_stops simple ?_ ?_ keyed e below
    · rw [identified]
      rfl
    · rwa [identified]

/-- Each reference of the last script of a path on the itinerary is on it too. -/
theorem fate_mem_itinerary {places : List Nat} {chain : List String} {caller target : String}
    {place : Nat} (passed : (places, .walked chain) ∈ store.itinerary limit root script)
    (refers : store.Refers chain caller place target) :
    (places ++ [place], store.fate limit chain caller target) ∈
      store.itinerary limit root script := by
  have identified : script.id = root := keyed root script found
  refine List.mem_cons_of_mem _ (fate_mem_stops ?_ ?_ keyed passed refers)
  · rw [identified]
    rfl
  · rwa [identified]

/-- Every simple path is on the itinerary, since its last reference is. -/
theorem SimplePath.mem_itinerary {places : List Nat} {chain : List String}
    (simple : store.SimplePath limit root places chain) :
    (places, .walked chain) ∈ store.itinerary limit root script := by
  induction simple.path with
  | start stored => exact List.mem_cons_self
  | @follow places chain caller place target path refers stored ih =>
      have passed := ih (simple.of_follow path)
      obtain ⟨next, leads⟩ := simple.onward caller path stored
      have walked := fate_mem_itinerary keyed found passed refers
      simpa only [fate, leads] using walked

/-- The itinerary is the enumeration of the simple paths and of what is refused on them. -/
theorem depthFirst_itinerary :
    store.DepthFirst limit root (store.itinerary limit root script) where
  ordered := pairwise_itinerary script
  walked places chain :=
    ⟨sound_of_mem_itinerary keyed found (places, .walked chain),
      SimplePath.mem_itinerary keyed found⟩
  refused places warning := by
    refine ⟨sound_of_mem_itinerary keyed found (places, .refused warning), ?_⟩
    rintro ⟨path, refers, refused⟩
    have given := fate_mem_itinerary keyed found (path.mem_itinerary keyed found) refers
    simpa only [fate, refused] using given

end Itinerary

end ScriptStore

end ScenePlayer
