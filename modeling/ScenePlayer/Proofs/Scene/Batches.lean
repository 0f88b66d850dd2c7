import Mathlib.Data.List.Nodup
import Mathlib.Data.List.Perm.Basic
import Mathlib.Logic.Function.Basic
import ScenePlayer.Proofs.Script.Edits
import ScenePlayer.Scene

/-!
Batches of encoded scripts. A batch is refused for the first entry that cannot be decoded,
and then nothing has happened; else it comes to storing its entries one after another, as one
change of the scene and not as many (`batches_are_sequences`).

Generations apart, a store is what is stored under each identifier and which one is the root
(`ScriptStore.content`). Puts of two identifiers commute on that (`ScriptStore.write_comm`), so
the order of a batch with distinct identifiers does not show.
-/

namespace ScenePlayer

/-! ### Decoding -/

/-- The entry as it is stored, if it can be decoded. -/
def decodedEntry (entry : String × Bytes) : String × List Instruction :=
  (entry.1, (decode entry.2).toOption.getD [])

def Decodes (entry : String × Bytes) : Prop := (decode entry.2).isOk = true

/-- The first entry that cannot be decoded has this error. -/
def FirstFault (entries : List (String × Bytes)) (error : DecodeError) : Prop :=
  ∃ before entry after, entries = before ++ entry :: after ∧
    (∀ earlier ∈ before, Decodes earlier) ∧ decode entry.2 = .error error

variable {entries : List (String × Bytes)} {entry : String × Bytes} {error : DecodeError}

theorem Decodes.eq_ok (decodes : Decodes entry) :
    decode entry.2 = .ok (decodedEntry entry).2 := by
  rw [Decodes] at decodes
  rw [decodedEntry]
  cases decoded : decode entry.2 with
  | error error => simp [decoded, Except.isOk, Except.toBool] at decodes
  | ok instructions => rfl

theorem not_decodes_iff : ¬ Decodes entry ↔ ∃ error, decode entry.2 = .error error := by
  rw [Decodes]
  cases decode entry.2 <;> simp [Except.isOk, Except.toBool]

theorem decodeBatch_cons_of_decodes (decodes : Decodes entry) :
    decodeBatch (entry :: entries) = (decodeBatch entries).map (decodedEntry entry :: ·) := by
  rw [decodeBatch, decodes.eq_ok]
  cases decodeBatch entries <;> rfl

theorem decodeBatch_of_decodes (decodes : ∀ entry ∈ entries, Decodes entry) :
    decodeBatch entries = .ok (entries.map decodedEntry) := by
  induction entries with
  | nil => rfl
  | cons entry rest ih =>
      obtain ⟨first, others⟩ := List.forall_mem_cons.1 decodes
      rw [decodeBatch_cons_of_decodes first, ih others]
      rfl

theorem FirstFault.decodeBatch (fault : FirstFault entries error) :
    decodeBatch entries = .error error := by
  obtain ⟨before, entry, after, rfl, decodes, undecodable⟩ := fault
  induction before with
  | nil => rw [List.nil_append, ScenePlayer.decodeBatch, undecodable]
  | cons first before ih =>
      obtain ⟨first, others⟩ := List.forall_mem_cons.1 decodes
      rw [List.cons_append, decodeBatch_cons_of_decodes first, ih others]
      rfl

/-- All entries can be decoded, or one is the first that cannot. -/
theorem decodes_or_firstFault (entries : List (String × Bytes)) :
    (∀ entry ∈ entries, Decodes entry) ∨ ∃ error, FirstFault entries error := by
  induction entries with
  | nil => exact .inl nofun
  | cons entry rest ih =>
      by_cases decodes : Decodes entry
      · rcases ih with others | ⟨error, before, fault, after, rfl, sound, undecodable⟩
        · exact .inl (List.forall_mem_cons.2 ⟨decodes, others⟩)
        · exact .inr ⟨error, entry :: before, fault, after, rfl,
            List.forall_mem_cons.2 ⟨decodes, sound⟩, undecodable⟩
      · obtain ⟨error, undecodable⟩ := not_decodes_iff.1 decodes
        exact .inr ⟨error, [], entry, rest, rfl, nofun, undecodable⟩

theorem FirstFault.not_decodes (fault : FirstFault entries error) :
    ∃ entry ∈ entries, ¬ Decodes entry := by
  obtain ⟨before, entry, after, rfl, -, undecodable⟩ := fault
  exact ⟨entry, by simp, not_decodes_iff.2 ⟨error, undecodable⟩⟩

namespace ScriptStore

/-! ### Batches and sequences -/

/-- Decode and store one entry after another. -/
def putEach (entries : List (String × Bytes)) (store : ScriptStore) : ScriptStore :=
  entries.foldl (fun store entry => (store.putEncoded entry.1 entry.2).2) store

theorem putEncoded_of_decodes (store : ScriptStore) (decodes : Decodes entry) :
    store.putEncoded entry.1 entry.2 =
      (.ok (store.generation + 1), store.put entry.1 (decodedEntry entry).2) := by
  rw [putEncoded, decodes.eq_ok]
  rfl

theorem putEncodedBatch_of_decodes (store : ScriptStore)
    (decodes : ∀ entry ∈ entries, Decodes entry) :
    store.putEncodedBatch entries = (.ok entries.length, store.putEach entries) := by
  rw [putEncodedBatch, decodeBatch_of_decodes decodes]
  dsimp only
  rw [List.length_map, putBatch, List.foldl_map]
  refine congrArg (_, ·) (List.foldl_ext _ _ store fun store entry member => ?_)
  rw [store.putEncoded_of_decodes (decodes entry member)]
  rfl

theorem putEncodedBatch_of_firstFault (store : ScriptStore) (fault : FirstFault entries error) :
    store.putEncodedBatch entries = (.error error, store) := by
  rw [putEncodedBatch, fault.decodeBatch]

theorem putEncodedBatch_eq_error_iff (store : ScriptStore) :
    (store.putEncodedBatch entries).1 = .error error ↔ FirstFault entries error := by
  refine ⟨fun refused => ?_, fun fault => congrArg Prod.fst
    (store.putEncodedBatch_of_firstFault fault)⟩
  rcases decodes_or_firstFault entries with decodes | ⟨other, fault⟩
  · rw [store.putEncodedBatch_of_decodes decodes] at refused
    cases refused
  · rw [store.putEncodedBatch_of_firstFault fault] at refused
    cases refused
    exact fault

/-! ### The order of a batch -/

/-- What is stored under each identifier, and the root. -/
def content (store : ScriptStore) : (String → Option (List Instruction)) × Option String :=
  (fun id => (store.find? id).map Script.instructions, store.root)

/-- What a put makes of the content. -/
def write (content : (String → Option (List Instruction)) × Option String)
    (entry : String × List Instruction) :
    (String → Option (List Instruction)) × Option String :=
  (Function.update content.1 entry.1 (some entry.2),
    if entry.1 = rootId then some entry.1 else content.2)

theorem content_put (store : ScriptStore) (id : String) (instructions : List Instruction) :
    (store.put id instructions).content = write store.content (id, instructions) := by
  refine Prod.ext (funext fun other => ?_) rfl
  dsimp only [content, write]
  rw [find?_put, Function.update_apply]
  by_cases same : other = id
  · rw [if_pos same, if_pos same.symm]
    rfl
  · rw [if_neg same, if_neg (Ne.symm same)]

theorem content_putBatch (store : ScriptStore) (scripts : List (String × List Instruction)) :
    (store.putBatch scripts).content = scripts.foldl write store.content :=
  (List.foldl_hom content fun store script => (store.content_put script.1 script.2).symm).symm

theorem write_comm (content : (String → Option (List Instruction)) × Option String)
    {script other : String × List Instruction} (differ : script.1 ≠ other.1) :
    write (write content script) other = write (write content other) script := by
  refine Prod.ext (Function.update_comm differ _ _ _) ?_
  dsimp only [write]
  by_cases isRoot : script.1 = rootId
  · have other : other.1 ≠ rootId := fun alsoRoot => differ (isRoot.trans alsoRoot.symm)
    rw [if_neg other, if_pos isRoot, if_pos isRoot]
  · rw [if_neg isRoot, if_neg isRoot]

/-- Puts under distinct identifiers come to the same in every order. -/
theorem content_putBatch_of_perm {scripts others : List (String × List Instruction)}
    (distinct : (scripts.map Prod.fst).Nodup) (reordered : scripts.Perm others)
    (store : ScriptStore) : (store.putBatch others).content = (store.putBatch scripts).content := by
  rw [content_putBatch, content_putBatch]
  refine (reordered.foldl_eq' (fun script member other alsoMember content => ?_) _).symm
  by_cases same : script.1 = other.1
  · rw [List.inj_on_of_nodup_map distinct member alsoMember same]
  · exact write_comm content same

theorem content_putEncodedBatch_of_perm {others : List (String × Bytes)}
    (distinct : (entries.map Prod.fst).Nodup) (reordered : entries.Perm others)
    (store : ScriptStore) :
    (store.putEncodedBatch others).2.content = (store.putEncodedBatch entries).2.content := by
  rcases decodes_or_firstFault entries with decodes | ⟨error, fault⟩
  · have alsoDecodes : ∀ entry ∈ others, Decodes entry :=
      fun entry member => decodes entry (reordered.mem_iff.2 member)
    have ids : (entries.map decodedEntry).map Prod.fst = entries.map Prod.fst := List.map_map
    rw [putEncodedBatch, putEncodedBatch, decodeBatch_of_decodes decodes,
      decodeBatch_of_decodes alsoDecodes]
    exact content_putBatch_of_perm (ids ▸ distinct) (reordered.map decodedEntry) store
  · obtain ⟨entry, member, undecodable⟩ := fault.not_decodes
    rcases decodes_or_firstFault others with decodes | ⟨otherError, otherFault⟩
    · exact absurd (decodes entry (reordered.mem_iff.1 member)) undecodable
    · rw [store.putEncodedBatch_of_firstFault fault,
        store.putEncodedBatch_of_firstFault otherFault]

end ScriptStore

namespace Scene

variable {S : Type}

/-! ### Batches of a scene -/

/-- Submit one entry after another. -/
def submitEach (entries : List (String × Bytes)) (scene : Scene S) : Scene S :=
  entries.foldl (fun scene entry => (scene.submit entry.1 entry.2).2) scene

theorem submit_of_decodes (scene : Scene S) (decodes : Decodes entry) :
    (scene.submit entry.1 entry.2).2 =
      { scene with scripts := (scene.scripts.putEncoded entry.1 entry.2).2 }.mark := by
  rw [submit, scene.scripts.putEncoded_of_decodes decodes]

/-- Every script submitted is an event. -/
theorem submitEach_of_decodes (scene : Scene S) (decodes : ∀ entry ∈ entries, Decodes entry) :
    scene.submitEach entries =
      { scene with
        scripts := scene.scripts.putEach entries
        redraw := entries.foldl (fun flag _ => flag.mark) scene.redraw } := by
  induction entries generalizing scene with
  | nil => rfl
  | cons entry rest ih =>
      obtain ⟨first, others⟩ := List.forall_mem_cons.1 decodes
      have later := ih (scene.submit entry.1 entry.2).2 others
      rw [scene.submit_of_decodes first] at later
      exact (congrArg (submitEach rest) (scene.submit_of_decodes first)).trans later

theorem foldl_mark (flag : DirtyFlag) (entries : List (String × Bytes)) :
    entries.foldl (fun flag _ => flag.mark) flag =
      ⟨flag.dirty || !entries.isEmpty, flag.pending + entries.length⟩ := by
  induction entries generalizing flag with
  | nil => simp
  | cons entry rest ih =>
      rw [List.foldl_cons, ih, List.length_cons, Nat.add_comm rest.length, ← Nat.add_assoc]
      simp [DirtyFlag.mark, DirtyFlag.count, DirtyFlag.raise]

theorem submitBatch_of_firstFault (scene : Scene S) (fault : FirstFault entries error) :
    scene.submitBatch entries = (.error error, scene) := by
  rw [submitBatch, fault.decodeBatch]

/-- A batch is a single event, or none if it is empty. -/
theorem submitBatch_of_decodes (scene : Scene S) (decodes : ∀ entry ∈ entries, Decodes entry) :
    scene.submitBatch entries =
      (.ok (),
        { scene with
          scripts := scene.scripts.putEach entries
          redraw := if entries.isEmpty then scene.redraw else scene.redraw.mark }) := by
  have stored := congrArg Prod.snd (scene.scripts.putEncodedBatch_of_decodes decodes)
  rw [ScriptStore.putEncodedBatch, decodeBatch_of_decodes decodes] at stored
  rw [submitBatch, decodeBatch_of_decodes decodes]
  dsimp only [submitDecodedBatch] at stored ⊢
  rw [List.isEmpty_map, ← stored]
  cases entries <;> rfl

/-- A scene answers to a batch as its scripts do. -/
theorem submitBatch_scripts (scene : Scene S) (entries : List (String × Bytes)) :
    (scene.submitBatch entries).1 =
        (scene.scripts.putEncodedBatch entries).1.map (fun _ => ()) ∧
      (scene.submitBatch entries).2.scripts = (scene.scripts.putEncodedBatch entries).2 := by
  rcases decodes_or_firstFault entries with decodes | ⟨error, fault⟩
  · rw [scene.submitBatch_of_decodes decodes, scene.scripts.putEncodedBatch_of_decodes decodes]
    exact ⟨rfl, rfl⟩
  · rw [scene.submitBatch_of_firstFault fault, scene.scripts.putEncodedBatch_of_firstFault fault]
    exact ⟨rfl, rfl⟩

end Scene

/-- **A batch is atomic and equal to its sequence.** It is refused if and only if some entry
cannot be decoded, with the error of the first such entry, and then nothing has changed. Else
the answer is the number of its entries, and it leaves what they leave one after another:
instructions, generations and root. A scene does with a batch as its scripts do; compared with
one submission after another, it only counts a single event, and none for an empty batch. If the
identifiers are distinct, every order of the entries stores the same instructions under the
same identifiers and the same root. -/
theorem batches_are_sequences {S : Type} (store : ScriptStore) (scene : Scene S)
    (entries : List (String × Bytes)) :
    ((store.putEncodedBatch entries).1.isOk = false ↔ ∃ entry ∈ entries, ¬ Decodes entry) ∧
    (∀ error, (store.putEncodedBatch entries).1 = .error error ↔ FirstFault entries error) ∧
    (∀ error, FirstFault entries error →
      store.putEncodedBatch entries = (.error error, store) ∧
        scene.submitBatch entries = (.error error, scene)) ∧
    ((∀ entry ∈ entries, Decodes entry) →
      store.putEncodedBatch entries = (.ok entries.length, store.putEach entries) ∧
        scene.submitBatch entries =
          (.ok (),
            { scene.submitEach entries with
              redraw := if entries.isEmpty then scene.redraw else scene.redraw.mark }) ∧
        (scene.submitEach entries).redraw =
          ⟨scene.redraw.dirty || !entries.isEmpty, scene.redraw.pending + entries.length⟩) ∧
    ((scene.submitBatch entries).1 =
        (scene.scripts.putEncodedBatch entries).1.map (fun _ => ()) ∧
      (scene.submitBatch entries).2.scripts = (scene.scripts.putEncodedBatch entries).2) ∧
    ((entries.map Prod.fst).Nodup → ∀ others, entries.Perm others →
      let left := (store.putEncodedBatch others).2
      let right := (store.putEncodedBatch entries).2
      (∀ id, (left.find? id).map Script.instructions =
        (right.find? id).map Script.instructions) ∧ left.root = right.root) := by
  refine ⟨?_, fun error => store.putEncodedBatch_eq_error_iff, fun error fault => ?_,
    fun decodes => ?_, scene.submitBatch_scripts entries, fun distinct others reordered => ?_⟩
  · rcases decodes_or_firstFault entries with decodes | ⟨error, fault⟩
    · rw [store.putEncodedBatch_of_decodes decodes]
      exact iff_of_false nofun fun ⟨entry, member, fails⟩ => fails (decodes entry member)
    · rw [store.putEncodedBatch_of_firstFault fault]
      exact iff_of_true rfl fault.not_decodes
  · exact ⟨store.putEncodedBatch_of_firstFault fault, scene.submitBatch_of_firstFault fault⟩
  · refine ⟨store.putEncodedBatch_of_decodes decodes, ?_, ?_⟩
    · rw [scene.submitBatch_of_decodes decodes, scene.submitEach_of_decodes decodes]
    · rw [scene.submitEach_of_decodes decodes, Scene.foldl_mark]
  · have same := store.content_putEncodedBatch_of_perm distinct reordered
    exact ⟨congrFun (congrArg Prod.fst same), congrArg Prod.snd same⟩

/-- Under a repeated identifier the later entry is stored, with its own generation. -/
example :
    let store := (ScriptStore.putEncodedBatch [("a", []), (rootId, []), ("a", [])] {}).2
    (store.find? "a").map Script.generation = some 3 ∧ store.root = some rootId := by cbv

end ScenePlayer
