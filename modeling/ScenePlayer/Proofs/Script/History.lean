import ScenePlayer.Proofs.History
import ScenePlayer.Proofs.Script.Edits

/-!
What a script store remembers of its history. Every operation comes down to steps that
store a single script, remove one, designate a root or drop everything; an operation
with a buffer that cannot be decoded comes down to none (`ScriptEdit.steps`). The last
step that concerns an identifier decides what is stored under it, the last step that
bears on a designation decides whether it stands, and the number of puts so far is the
generation of the next one (`script_store_follows_history`).
-/

namespace ScenePlayer

/-- A change of a script store that is made in one go. -/
inductive ScriptStep where
  | put (id : String) (instructions : List Instruction)
  | delete (id : String)
  | designate (id : String)
  | clear
  deriving DecidableEq, Repr

namespace ScriptStep

/-- The puts of encoded scripts; none at all if one of them cannot be decoded. -/
def ofEncoded (entries : List (String × Bytes)) : List ScriptStep :=
  (entries.mapM fun entry => (decode entry.2).toOption.map (put entry.1)).getD []

/-- Whether a step decides what is stored under an identifier. -/
def Concerns (id : String) : ScriptStep → Prop
  | put name _ => name = id
  | delete name => name = id
  | designate _ => False
  | clear => True

/-- The identifier that a step makes the root. -/
def designated? : ScriptStep → Option String
  | put id _ => if id = rootId then some id else none
  | delete _ => none
  | designate id => some id
  | clear => none

/-- Whether a step decides if an identifier is the root. -/
def BearsOn (id : String) : ScriptStep → Prop
  | put name _ => name = rootId
  | delete name => name = id
  | designate _ => True
  | clear => True

def isPut : ScriptStep → Bool
  | put .. => true
  | _ => false

/-- How many scripts some steps have stored. -/
def puts (steps : List ScriptStep) : Nat := steps.countP isPut

end ScriptStep

open ScriptStep (puts)

/-- The steps that an operation comes down to. -/
def ScriptEdit.steps : ScriptEdit → List ScriptStep
  | .put id instructions => [.put id instructions]
  | .putEncoded id bytes => ScriptStep.ofEncoded [(id, bytes)]
  | .putBatch entries => entries.map fun entry => .put entry.1 entry.2
  | .putEncodedBatch entries => ScriptStep.ofEncoded entries
  | .delete id => [.delete id]
  | .setRoot id => [.designate id]
  | .clear => [.clear]

namespace ScriptStore

/-- The store that a step leaves. -/
def step (store : ScriptStore) : ScriptStep → ScriptStore
  | .put id instructions => store.put id instructions
  | .delete id => (store.delete id).2
  | .designate id => store.setRoot id
  | .clear => store.clear

/-- The store that some steps leave, from the empty one. -/
def stepped (steps : List ScriptStep) : ScriptStore := steps.foldl step {}

/-! ### Operations as steps -/

theorem foldl_step_puts (entries : List (String × List Instruction)) (store : ScriptStore) :
    (entries.map fun entry => ScriptStep.put entry.1 entry.2).foldl step store =
      store.putBatch entries := by
  rw [List.foldl_map]
  rfl

/-- A batch is decoded as a whole or not at all. -/
theorem ofEncoded_eq (entries : List (String × Bytes)) :
    ScriptStep.ofEncoded entries =
      ((decodeBatch entries).toOption.getD []).map fun entry => .put entry.1 entry.2 := by
  suffices (entries.mapM fun entry => (decode entry.2).toOption.map (ScriptStep.put entry.1)) =
      (decodeBatch entries).toOption.map (List.map fun entry => .put entry.1 entry.2) by
    rw [ScriptStep.ofEncoded, this]
    cases (decodeBatch entries).toOption <;> rfl
  induction entries with
  | nil => rfl
  | cons first rest ih =>
      rw [List.mapM_cons, ih, decodeBatch]
      cases decode first.2 with
      | error error => rfl
      | ok instructions => cases decodeBatch rest <;> rfl

theorem edit_eq_steps (store : ScriptStore) (edit : ScriptEdit) :
    store.edit edit = edit.steps.foldl step store := by
  cases edit with
  | putEncoded id bytes =>
      rw [ScriptEdit.steps, ofEncoded_eq, foldl_step_puts]
      simp only [ScriptStore.edit, putEncoded, decodeBatch]
      cases decode bytes <;> rfl
  | putBatch entries => exact (foldl_step_puts entries store).symm
  | putEncodedBatch entries =>
      rw [ScriptEdit.steps, ofEncoded_eq, foldl_step_puts]
      simp only [ScriptStore.edit, putEncodedBatch]
      cases decodeBatch entries <;> rfl
  | _ => rfl

theorem edited_eq_stepped (edits : List ScriptEdit) :
    edited edits = stepped (edits.flatMap ScriptEdit.steps) := by
  have folded : ∀ store : ScriptStore,
      edits.foldl edit store = (edits.flatMap ScriptEdit.steps).foldl step store := by
    induction edits with
    | nil => exact fun store => rfl
    | cons first rest ih =>
        intro store
        rw [List.foldl_cons, ih, edit_eq_steps, List.flatMap_cons, List.foldl_append]
  exact folded {}

theorem stepped_concat (steps : List ScriptStep) (new : ScriptStep) :
    stepped (steps ++ [new]) = (stepped steps).step new := by
  rw [stepped, List.foldl_append]
  rfl

/-! ### Generations -/

theorem puts_concat (steps : List ScriptStep) (new : ScriptStep) :
    puts (steps ++ [new]) = puts steps + if new.isPut then 1 else 0 :=
  countP_concat ScriptStep.isPut steps new

theorem puts_le_of_prefix {steps later : List ScriptStep} (before : steps <+: later) :
    puts steps ≤ puts later :=
  before.sublist.countP_le

/-- A put counts from the moment at which it is made. -/
theorem puts_lt_of_happened {earlier steps : List ScriptStep} {id : String}
    {instructions : List Instruction}
    (happened : earlier ++ [.put id instructions] <+: steps) : puts earlier < puts steps := by
  have counted : puts (earlier ++ [.put id instructions]) = puts earlier + 1 := puts_concat ..
  have bound := puts_le_of_prefix happened
  omega

/-- Two puts of a history that have the same number are the same put. -/
theorem eq_of_puts {steps earlier later : List ScriptStep} {id name : String}
    {instructions others : List Instruction}
    (happened : earlier ++ [.put id instructions] <+: steps)
    (alsoHappened : later ++ [.put name others] <+: steps) (same : puts earlier = puts later) :
    id = name ∧ instructions = others := by
  rcases List.prefix_or_prefix_of_prefix happened alsoHappened with first | second
  · rcases prefix_concat_cases.1 first with ⟨-, put⟩ | before
    · exact ScriptStep.put.inj put
    · exact absurd (puts_lt_of_happened before) (Nat.not_lt_of_le (Nat.le_of_eq same.symm))
  · rcases prefix_concat_cases.1 second with ⟨-, put⟩ | before
    · exact ScriptStep.put.inj put.symm
    · exact absurd (puts_lt_of_happened before) (Nat.not_lt_of_le (Nat.le_of_eq same))

/-- Generations number the puts. -/
theorem generation_stepped (steps : List ScriptStep) :
    (stepped steps).generation = puts steps := by
  induction steps using List.reverseRecOn with
  | nil => rfl
  | append_singleton steps new ih =>
      rw [stepped_concat, puts_concat, ← ih]
      cases new <;> rfl

/-! ### Scripts -/

theorem find?_step_of_unconcerned {new : ScriptStep} {id : String}
    (unconcerned : ¬ new.Concerns id) (store : ScriptStore) :
    (store.step new).find? id = store.find? id := by
  cases new with
  | put name instructions => exact (find?_put ..).trans (if_neg unconcerned)
  | delete name => exact (find?_delete ..).trans (if_neg unconcerned)
  | designate name => rfl
  | clear => exact absurd trivial unconcerned

/-- A step that concerns an identifier stores a script under it or leaves nothing there. -/
theorem find?_step_of_concerned {new : ScriptStep} {id : String} (concerned : new.Concerns id)
    (store : ScriptStore) (script : Script) :
    (store.step new).find? id = some script ↔
      ∃ instructions, new = .put id instructions ∧
        script = ⟨id, instructions, store.generation + 1⟩ := by
  cases new with
  | put name instructions =>
      obtain rfl : name = id := concerned
      rw [show (store.step (.put name instructions)).find? name = _ from find?_put ..,
        if_pos rfl]
      constructor
      · rintro ⟨⟩
        exact ⟨instructions, rfl, rfl⟩
      · rintro ⟨_, ⟨⟩, rfl⟩
        rfl
  | delete name =>
      have gone : (store.step (.delete name)).find? id = none :=
        (find?_delete ..).trans (if_pos concerned)
      simp [gone]
  | designate name => exact absurd concerned not_false
  | clear =>
      have gone : (store.step .clear).find? id = none := rfl
      simp [gone]

/-- What is stored under an identifier has been stored by the last step that concerns
it. -/
theorem find?_stepped (steps : List ScriptStep) (id : String) (script : Script) :
    (stepped steps).find? id = some script ↔
      ∃ earlier instructions,
        LastOf (fun _ step => step.Concerns id) earlier (.put id instructions) steps ∧
          script = ⟨id, instructions, puts earlier + 1⟩ := by
  have byStep : ∀ (steps : List ScriptStep) (new : ScriptStep),
      (stepped (steps ++ [new])).find? id = some script ↔
        (new.Concerns id ∧ ∃ instructions, new = .put id instructions ∧
          script = ⟨id, instructions, puts steps + 1⟩) ∨
          (¬ new.Concerns id ∧ (stepped steps).find? id = some script) := by
    intro steps new
    rw [stepped_concat, ← generation_stepped]
    by_cases concerned : new.Concerns id
    · simp only [find?_step_of_concerned concerned, concerned, true_and, not_true_eq_false,
        false_and, or_false]
    · simp only [find?_step_of_unconcerned concerned, concerned, false_and, false_or,
        not_false_eq_true, true_and]
  rw [holds_iff_lastOf (P := fun steps => (stepped steps).find? id = some script) nofun byStep]
  constructor
  · rintro ⟨earlier, _, last, instructions, rfl, rfl⟩
    exact ⟨earlier, instructions, last, rfl⟩
  · rintro ⟨earlier, instructions, last, rfl⟩
    exact ⟨earlier, _, last, instructions, rfl, rfl⟩

/-- A version has the generation of a put so far. -/
theorem generation_le_puts {steps : List ScriptStep} {id : String} {script : Script}
    (found : (stepped steps).find? id = some script) : script.generation ≤ puts steps := by
  obtain ⟨earlier, instructions, last, rfl⟩ := (find?_stepped steps id script).1 found
  exact puts_lt_of_happened last.happened

/-! ### The root -/

/-- One step changes the designation of an identifier if it bears on it. -/
theorem root_step (store : ScriptStore) (new : ScriptStep) (id : String) :
    (store.step new).root = some id ↔
      (new.BearsOn id ∧ new.designated? = some id) ∨
        (¬ new.BearsOn id ∧ store.root = some id) := by
  cases new with
  | put name instructions =>
      by_cases isRoot : name = rootId <;>
        simp [step, ScriptStore.put, ScriptStep.BearsOn, ScriptStep.designated?, isRoot]
  | delete name =>
      by_cases named : store.root = some name
      · simp [step, ScriptStore.delete, ScriptStep.BearsOn, ScriptStep.designated?, named]
      · by_cases same : name = id
        · subst same
          simp [step, ScriptStore.delete, ScriptStep.BearsOn, ScriptStep.designated?, named]
        · simp [step, ScriptStore.delete, ScriptStep.BearsOn, ScriptStep.designated?, named, same]
  | designate name => simp [step, setRoot, ScriptStep.BearsOn, ScriptStep.designated?]
  | clear => simp [step, ScriptStore.clear, ScriptStep.BearsOn, ScriptStep.designated?]

/-- An identifier is the root if the last step that bears on its designation has made it
so. -/
theorem root_stepped (steps : List ScriptStep) (id : String) :
    (stepped steps).root = some id ↔
      ∃ earlier step, LastOf (fun _ step => step.BearsOn id) earlier step steps ∧
        step.designated? = some id := by
  refine holds_iff_lastOf (P := fun steps => (stepped steps).root = some id) nofun
    (fun steps new => ?_) steps
  rw [stepped_concat]
  exact root_step (stepped steps) new id

/-- The answer to a put is the generation of the version that it has stored. -/
theorem generation_putEncoded {store : ScriptStore} {id : String} {bytes : Bytes}
    {generation : Nat} (answer : (store.putEncoded id bytes).1 = .ok generation) :
    ((store.putEncoded id bytes).2.find? id).map Script.generation = some generation := by
  unfold putEncoded at answer ⊢
  cases decoded : decode bytes with
  | error error => simp [decoded] at answer
  | ok instructions =>
      simp only [decoded, Except.ok.injEq] at answer
      simp only [find?_put, if_true, Option.map_some, Option.some.injEq]
      exact answer

/-! ### All there is -/

/-- A store is what the steps made in it have left. -/
structure Reflects (store : ScriptStore) (steps : List ScriptStep) : Prop where
  /-- Under an identifier is the script of the last put of it, unless it was deleted or all
  was cleared since. It carries the identifier, and its generation numbers its put. -/
  scripts : ∀ id script, store.find? id = some script ↔
    ∃ earlier instructions,
      LastOf (fun _ step => step.Concerns id) earlier (.put id instructions) steps ∧
        script = ⟨id, instructions, puts earlier + 1⟩
  /-- The identifiers are those under which something is stored, each of them once. -/
  ids : store.ids.Nodup ∧ ∀ id, id ∈ store.ids ↔ ∃ script, store.find? id = some script
  contains : ∀ id, store.contains id = true ↔ id ∈ store.ids
  size : store.size = store.ids.length
  isEmpty : store.isEmpty = true ↔ store.ids = []
  /-- The root is what was designated last, by itself or by a put of the well-known root,
  unless it was deleted or all was cleared since. -/
  root : ∀ id, store.root = some id ↔
    ∃ earlier step, LastOf (fun _ step => step.BearsOn id) earlier step steps ∧
      step.designated? = some id
  /-- There is a root script if one is designated and stored. -/
  rootScript : ∀ script, store.rootScript? = some script ↔
    ∃ id, store.root = some id ∧ store.find? id = some script

theorem reflects_stepped (steps : List ScriptStep) : (stepped steps).Reflects steps where
  scripts := find?_stepped steps
  ids := ⟨(stepped steps).scripts.distinct, fun id =>
    (Table.contains_iff _ id).symm.trans Option.isSome_iff_exists⟩
  contains := Table.contains_iff (stepped steps).scripts
  size := (List.length_map _).symm
  isEmpty := List.isEmpty_iff.trans List.map_eq_nil_iff.symm
  root := root_stepped steps
  rootScript _ := Option.bind_eq_some_iff

end ScriptStore

open ScriptStore (stepped)

/-- **A script store is what its history has left.** After any operations, those with
undecodable buffers among them, what is stored and which script is the root is decided by
the steps that the operations came down to. Every version that is stored gets a generation
greater than those of all versions ever stored before, so versions of one generation,
whenever they are found, are the same. A put of encoded bytes answers with the generation
that it has given. -/
theorem script_store_follows_history (edits : List ScriptEdit) :
    let steps := edits.flatMap ScriptEdit.steps
    ScriptStore.edited edits = stepped steps ∧
      (ScriptStore.edited edits).Reflects steps ∧
      (∀ earlier id instructions, earlier ++ [.put id instructions] <+: steps →
        ∃ script, (stepped (earlier ++ [.put id instructions])).find? id = some script ∧
          script.instructions = instructions ∧
          ∀ before name other, before <+: earlier →
            (stepped before).find? name = some other → other.generation < script.generation) ∧
      (∀ before after id name script other, before <+: steps → after <+: steps →
        (stepped before).find? id = some script → (stepped after).find? name = some other →
          script.generation = other.generation → id = name ∧ script = other) ∧
      ∀ id bytes generation,
        ((ScriptStore.edited edits).putEncoded id bytes).1 = .ok generation →
          (((ScriptStore.edited edits).putEncoded id bytes).2.find? id).map Script.generation =
            some generation := by
  intro steps
  have same : ScriptStore.edited edits = stepped steps := ScriptStore.edited_eq_stepped edits
  refine ⟨same, same ▸ ScriptStore.reflects_stepped steps, ?_, ?_, fun _ _ _ answer =>
    ScriptStore.generation_putEncoded answer⟩
  · intro earlier id instructions _
    have found : (stepped (earlier ++ [.put id instructions])).find? id =
        some ⟨id, instructions, puts earlier + 1⟩ := by
      rw [ScriptStore.stepped_concat, ← ScriptStore.generation_stepped]
      exact (ScriptStore.find?_put ..).trans (if_pos rfl)
    refine ⟨_, found, rfl, fun before name other prior stored => ?_⟩
    exact Nat.lt_succ_of_le
      (Nat.le_trans (ScriptStore.generation_le_puts stored) (ScriptStore.puts_le_of_prefix prior))
  · intro before after id name script other priorBefore priorAfter found stored generation
    obtain ⟨earlier, instructions, last, rfl⟩ := (ScriptStore.find?_stepped ..).1 found
    obtain ⟨later, others, otherLast, rfl⟩ := (ScriptStore.find?_stepped ..).1 stored
    have counted : puts earlier = puts later := Nat.succ.inj generation
    obtain ⟨rfl, rfl⟩ := ScriptStore.eq_of_puts (last.happened.trans priorBefore)
      (otherLast.happened.trans priorAfter) counted
    exact ⟨rfl, by rw [counted]⟩

/-- A put of the well-known root takes the designation from another script, and generations
go on after a clear. -/
example :
    let store := ScriptStore.edited
      [.setRoot "main", .put rootId [], .put "a" [], .clear, .delete rootId, .setRoot "b",
        .put rootId [.pushState], .delete "b"]
    store.root = some rootId ∧ store.rootScript? = some ⟨rootId, [.pushState], 3⟩ ∧
      store.ids = [rootId] := by decide

end ScenePlayer
