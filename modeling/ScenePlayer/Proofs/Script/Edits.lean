import ScenePlayer.Script.Store

/-!
Histories of a script store. Every operation is a sequence of puts, deletions,
root designations and clears, so what these preserve holds after every history
(`ScriptStore.edited_of_basic`). A stored script carries the identifier it is
stored under (`keyed_edited`). As long as nobody designates another root, the
root is the well-known script exactly when that is stored (`Rooted`).
-/

namespace ScenePlayer

/-- An operation on a script store, with its arguments. -/
inductive ScriptEdit where
  | put (id : String) (instructions : List Instruction)
  | putEncoded (id : String) (bytes : Bytes)
  | putBatch (entries : List (String × List Instruction))
  | putEncodedBatch (entries : List (String × Bytes))
  | delete (id : String)
  | setRoot (id : String)
  | clear
  deriving DecidableEq, Repr

namespace ScriptStore

/-- The store that an operation leaves. -/
def edit (store : ScriptStore) : ScriptEdit → ScriptStore
  | .put id instructions => store.put id instructions
  | .putEncoded id bytes => (store.putEncoded id bytes).2
  | .putBatch entries => store.putBatch entries
  | .putEncodedBatch entries => (store.putEncodedBatch entries).2
  | .delete id => (store.delete id).2
  | .setRoot id => store.setRoot id
  | .clear => store.clear

/-- The store that a history leaves, from the empty one. -/
def edited (edits : List ScriptEdit) : ScriptStore := edits.foldl edit {}

section Induction

variable {P : ScriptStore → Prop}

theorem putBatch_of_put
    (put : ∀ id instructions store, P store → P (store.put id instructions))
    (entries : List (String × List Instruction)) {store : ScriptStore} (holds : P store) :
    P (store.putBatch entries) := by
  unfold putBatch
  induction entries generalizing store with
  | nil => exact holds
  | cons entry rest ih => exact ih (put entry.1 entry.2 store holds)

/-- What the basic operations preserve, every operation preserves. Designations
matter only if the operation is one. -/
theorem edit_of_basic (edit : ScriptEdit)
    (put : ∀ id instructions store, P store → P (store.put id instructions))
    (delete : ∀ id store, P store → P (store.delete id).2)
    (setRoot : ∀ id store, edit = .setRoot id → P store → P (store.setRoot id))
    (clear : ∀ store, P store → P store.clear) {store : ScriptStore} (holds : P store) :
    P (store.edit edit) := by
  cases edit with
  | put id instructions => exact put id instructions store holds
  | putEncoded id bytes =>
      simp only [ScriptStore.edit, putEncoded]
      cases decode bytes with
      | error error => exact holds
      | ok instructions => exact put id instructions store holds
  | putBatch entries => exact putBatch_of_put put entries holds
  | putEncodedBatch entries =>
      simp only [ScriptStore.edit, putEncodedBatch]
      cases decodeBatch entries with
      | error error => exact holds
      | ok decoded => exact putBatch_of_put put decoded holds
  | delete id => exact delete id store holds
  | setRoot id => exact setRoot id store rfl holds
  | clear => exact clear store holds

/-- What the basic operations preserve holds after every history. -/
theorem edited_of_basic (empty : P {})
    (put : ∀ id instructions store, P store → P (store.put id instructions))
    (delete : ∀ id store, P store → P (store.delete id).2)
    (setRoot : ∀ id store, P store → P (store.setRoot id))
    (clear : ∀ store, P store → P store.clear) (edits : List ScriptEdit) : P (edited edits) := by
  suffices ∀ store, P store → P (edits.foldl edit store) from this {} empty
  induction edits with
  | nil => exact fun store holds => holds
  | cons first rest ih =>
      intro store holds
      have designate : ∀ id store, first = .setRoot id → P store → P (store.setRoot id) :=
        fun id store _ => setRoot id store
      exact ih _ (edit_of_basic first put delete designate clear holds)

end Induction

/-! ### Looking up -/

theorem find?_put (store : ScriptStore) (id other : String) (instructions : List Instruction) :
    (store.put id instructions).find? other =
      if id = other then some ⟨id, instructions, store.generation + 1⟩ else store.find? other :=
  Table.find?_insert store.scripts id other _

theorem find?_delete (store : ScriptStore) (id other : String) :
    (store.delete id).2.find? other = if id = other then none else store.find? other :=
  Table.find?_erase store.scripts id other

theorem contains_put (store : ScriptStore) (id other : String)
    (instructions : List Instruction) :
    (store.put id instructions).contains other = (decide (id = other) || store.contains other) :=
  Table.contains_insert store.scripts id other _

theorem contains_delete (store : ScriptStore) (id other : String) :
    (store.delete id).2.contains other = (decide (id ≠ other) && store.contains other) :=
  Table.contains_erase store.scripts id other

theorem contains_of_find? {store : ScriptStore} {id : String} {script : Script}
    (found : store.find? id = some script) : store.contains id = true := by
  simp only [find?] at found
  simp [contains, Table.contains, found]

/-! ### Scripts carry their keys -/

/-- Every script carries the identifier that it is stored under. -/
def Keyed (store : ScriptStore) : Prop :=
  ∀ id script, store.find? id = some script → script.id = id

theorem keyed_put (id : String) (instructions : List Instruction) (store : ScriptStore)
    (keyed : store.Keyed) : (store.put id instructions).Keyed := by
  intro other script found
  rw [find?_put] at found
  split at found
  · rename_i same
    cases found
    exact same
  · exact keyed other script found

theorem keyed_delete (id : String) (store : ScriptStore) (keyed : store.Keyed) :
    (store.delete id).2.Keyed := by
  intro other script found
  rw [find?_delete] at found
  split at found
  · cases found
  · exact keyed other script found

theorem keyed_edited (edits : List ScriptEdit) : (edited edits).Keyed := by
  refine edited_of_basic ?_ keyed_put keyed_delete (fun _ _ keyed => keyed) ?_ edits
  · rintro id script ⟨⟩
  · rintro store - id script ⟨⟩

end ScriptStore

/-! ### Scripts without text -/

/-- No instruction draws text. -/
def Textless (instructions : List Instruction) : Prop := ∀ text, .drawText text ∉ instructions

/-- No script that an edit stores draws text. -/
def ScriptEdit.Textless : ScriptEdit → Prop
  | .put _ instructions => ScenePlayer.Textless instructions
  | .putEncoded _ bytes =>
      ∀ instructions, decode bytes = .ok instructions → ScenePlayer.Textless instructions
  | .putBatch entries => ∀ entry ∈ entries, ScenePlayer.Textless entry.2
  | .putEncodedBatch entries =>
      ∀ decoded, decodeBatch entries = .ok decoded → ∀ entry ∈ decoded, ScenePlayer.Textless entry.2
  | _ => True

namespace ScriptStore

/-- No stored script draws text. -/
def Textless (store : ScriptStore) : Prop :=
  ∀ id script, store.find? id = some script → ScenePlayer.Textless script.instructions

theorem textless_empty : Textless {} := by rintro id script ⟨⟩

theorem Textless.put {store : ScriptStore} (textless : store.Textless) (id : String)
    {instructions : List Instruction} (new : ScenePlayer.Textless instructions) :
    (store.put id instructions).Textless := by
  intro other script found
  rw [find?_put] at found
  split at found
  · cases found
    exact new
  · exact textless other script found

theorem Textless.putBatch {store : ScriptStore} (textless : store.Textless)
    {entries : List (String × List Instruction)}
    (new : ∀ entry ∈ entries, ScenePlayer.Textless entry.2) :
    (store.putBatch entries).Textless := by
  unfold ScriptStore.putBatch
  induction entries generalizing store with
  | nil => exact textless
  | cons entry rest ih =>
      obtain ⟨first, others⟩ := List.forall_mem_cons.1 new
      exact ih (textless.put entry.1 first) others

theorem Textless.delete {store : ScriptStore} (textless : store.Textless) (id : String) :
    (store.delete id).2.Textless := by
  intro other script found
  rw [find?_delete] at found
  split at found
  · cases found
  · exact textless other script found

theorem textless_clear (store : ScriptStore) : store.clear.Textless := by
  rintro id script ⟨⟩

theorem Textless.edit {store : ScriptStore} (textless : store.Textless) {edit : ScriptEdit}
    (new : edit.Textless) : (store.edit edit).Textless := by
  cases edit with
  | put id instructions => exact textless.put id new
  | putEncoded id bytes =>
      simp only [ScriptStore.edit, putEncoded]
      cases decoded : decode bytes with
      | error error => exact textless
      | ok instructions => exact textless.put id (new instructions decoded)
  | putBatch entries => exact textless.putBatch new
  | putEncodedBatch entries =>
      simp only [ScriptStore.edit, putEncodedBatch]
      cases decoded : decodeBatch entries with
      | error error => exact textless
      | ok staged => exact textless.putBatch (new staged decoded)
  | delete id => exact textless.delete id
  | setRoot id => exact textless
  | clear => exact textless_clear store

/-! ### The well-known root -/

/-- The root is the well-known script if that is stored, and nothing else. -/
def Rooted (store : ScriptStore) : Prop :=
  store.root = if store.contains rootId then some rootId else none

theorem rooted_empty : Rooted {} := rfl

theorem Rooted.put {store : ScriptStore} (rooted : store.Rooted) (id : String)
    (instructions : List Instruction) : (store.put id instructions).Rooted := by
  rw [Rooted, contains_put]
  by_cases isRoot : id = rootId
  · simp [ScriptStore.put, isRoot]
  · simpa [ScriptStore.put, isRoot] using (show store.root = _ from rooted)

theorem Rooted.delete {store : ScriptStore} (rooted : store.Rooted) (id : String) :
    (store.delete id).2.Rooted := by
  rw [Rooted, contains_delete]
  rw [Rooted] at rooted
  by_cases isRoot : id = rootId
  · subst isRoot
    simp only [ScriptStore.delete, rooted]
    split <;> simp_all
  · simp only [ScriptStore.delete, rooted]
    split <;> simp_all [Ne.symm isRoot]

theorem rooted_clear (store : ScriptStore) : store.clear.Rooted := rfl

theorem Rooted.of_contains {store : ScriptStore} (rooted : store.Rooted)
    (stored : store.contains rootId = true) :
    store.root = some rootId ∧ ∃ script, store.find? rootId = some script := by
  rw [Rooted, stored, if_pos rfl] at rooted
  exact ⟨rooted, Option.isSome_iff_exists.1 stored⟩

/-- An edit keeps the well-known root unless it designates another. -/
theorem Rooted.edit {store : ScriptStore} (rooted : store.Rooted) (edit : ScriptEdit)
    (designates : ∀ id, edit ≠ .setRoot id) : (store.edit edit).Rooted := by
  refine edit_of_basic edit ?_ ?_ ?_ ?_ rooted
  · exact fun id instructions _ kept => kept.put id instructions
  · exact fun id _ kept => kept.delete id
  · exact fun id _ same _ => absurd same (designates id)
  · exact fun cleared _ => rooted_clear cleared

/-- Deleting what is not stored changes nothing. -/
theorem Rooted.delete_of_absent {store : ScriptStore} (rooted : store.Rooted) {id : String}
    (absent : store.contains id = false) : store.delete id = (false, store) := by
  have root : store.root ≠ some id := by
    rw [rooted]
    split
    · rename_i present
      rintro ⟨⟩
      simp_all
    · simp
  have scripts : store.scripts.erase id = store.scripts := Table.erase_of_absent absent
  simp [ScriptStore.delete, absent, root, scripts]

end ScriptStore

end ScenePlayer
