import ScenePlayer.Proofs.Asset.Edits
import ScenePlayer.Proofs.History

/-!
What an asset store remembers of its history. The last edit that concerns a kind and an
identifier decides what is stored there: nothing, or a payload under the number that its
insertion has among all (`held_edited_iff`). Edits answer by the change that they have
made (`AssetStore.answer`), and those that fail make none. Together these say all that a
history leaves (`asset_store_follows_history`).
-/

namespace ScenePlayer

namespace AssetEdit

variable (decoder : ImageDecoder)

/-- Whether an edit decides what is stored under a kind and an identifier: it inserts a
payload there, or removes what is there. -/
def Concerns (kind : AssetKind) (id : String) (edit : AssetEdit) : Prop :=
  (∃ asset, edit.payload? decoder = some (id, asset) ∧ asset.kind = kind) ∨
    edit.removes kind id = true

/-- The kind of asset that an edit is about; a clear is about all of them. -/
def kind? : AssetEdit → Option AssetKind
  | insert _ asset => some asset.kind
  | putImage .. => some .image
  | putStream .. => some .stream
  | putFont .. => some .font
  | delete kind _ => some kind
  | clear => none

variable {decoder}

theorem insertions_reverse (edits : List AssetEdit) :
    insertions decoder edits.reverse = insertions decoder edits :=
  List.countP_reverse

theorem insertions_le_of_prefix {edits later : List AssetEdit} (before : edits <+: later) :
    insertions decoder edits ≤ insertions decoder later :=
  before.sublist.countP_le

/-- An insertion removes nothing. -/
theorem removes_of_payload {edit : AssetEdit} (stores : (edit.payload? decoder).isSome = true)
    (kind : AssetKind) (id : String) : edit.removes kind id = false := by
  cases edit with
  | delete deleted name => cases stores
  | clear => cases stores
  | _ => rfl

/-- The payload of an edit has the kind that the edit is about. -/
theorem kind?_of_payload {edit : AssetEdit} {id : String} {asset : Asset}
    (stores : edit.payload? decoder = some (id, asset)) : edit.kind? = some asset.kind := by
  have made : ∀ (name : String) (make : Picture → Asset) (picture : Except AssetError Picture),
      (picture.map make).toOption.map (name, ·) = some (id, asset) →
        ∃ picture, asset = make picture := by
    intro name make picture stores
    cases picture with
    | error error => cases stores
    | ok picture =>
        cases stores
        exact ⟨picture, rfl⟩
  cases edit with
  | insert name payload =>
      cases stores
      rfl
  | putImage name bytes =>
      obtain ⟨picture, rfl⟩ := made name .image _ stores
      rfl
  | putStream name format width height bytes =>
      obtain ⟨picture, rfl⟩ := made name .stream _ stores
      rfl
  | putFont name bytes =>
      have stores : (Asset.ofFontBytes bytes).toOption.map (name, ·) = some (id, asset) := stores
      unfold Asset.ofFontBytes at stores
      split at stores <;> cases stores
      rfl
  | delete kind name => cases stores
  | clear => cases stores

/-- An edit about one kind does not concern another. -/
theorem not_concerns_of_kind {edit : AssetEdit} {kind other : AssetKind}
    (about : edit.kind? = some other) (differs : kind ≠ other) (id : String) :
    ¬ edit.Concerns decoder kind id := by
  rintro (⟨asset, stores, rfl⟩ | removes)
  · rw [kind?_of_payload stores] at about
    exact differs (Option.some.inj about)
  · cases edit with
    | delete deleted name =>
        obtain ⟨rfl, -⟩ := of_decide_eq_true removes
        exact differs (Option.some.inj about)
    | clear => cases about
    | _ => cases removes

end AssetEdit

namespace AssetStore

open AssetEdit (insertions)

variable {decoder : ImageDecoder}

theorem edited_append (edits later : List AssetEdit) :
    edited decoder (edits ++ later).reverse =
      later.foldl (edit decoder) (edited decoder edits.reverse) := by
  have inOrder : ∀ edits : List AssetEdit,
      edited decoder edits.reverse = edits.foldl (edit decoder) {} :=
    fun _ => List.foldr_reverse
  rw [inOrder, inOrder, List.foldl_append]

theorem edited_concat (edits : List AssetEdit) (new : AssetEdit) :
    edited decoder (edits ++ [new]).reverse = (edited decoder edits.reverse).edit decoder new :=
  edited_append edits [new]

/-! ### Look-up -/

/-- What an edit leaves under a kind and an identifier that it does not concern. -/
theorem held_edit_of_unconcerned {edit : AssetEdit} {kind : AssetKind} {id : String}
    (unconcerned : ¬ edit.Concerns decoder kind id) (store : AssetStore) :
    (store.edit decoder edit).held kind id = store.held kind id := by
  cases stores : edit.payload? decoder with
  | some payload =>
      obtain ⟨name, asset⟩ := payload
      rw [edit_of_payload stores, held_insert, if_neg]
      rintro ⟨isKind, rfl⟩
      exact unconcerned (.inl ⟨asset, stores, isKind⟩)
  | none =>
      rcases edit_of_refused stores store with ⟨same, -⟩ | ⟨deleted, name, rfl⟩ | rfl
      · rw [same]
      · refine (held_delete ..).trans (if_neg fun concerned => unconcerned (.inr ?_))
        exact decide_eq_true concerned
      · exact absurd (.inr rfl) unconcerned

/-- An edit that concerns a kind and an identifier stores its payload there or leaves
nothing. -/
theorem held_edit_of_concerned {edit : AssetEdit} {kind : AssetKind} {id : String}
    (concerned : edit.Concerns decoder kind id) (store : AssetStore) :
    (store.edit decoder edit).held kind id =
      (edit.payload? decoder).map fun payload => (payload.2, store.stamp + 1) := by
  rcases concerned with ⟨asset, stores, isKind⟩ | removes
  · rw [edit_of_payload stores, held_insert, if_pos ⟨isKind, rfl⟩, stores]
    rfl
  · cases edit with
    | delete deleted name =>
        exact (held_delete ..).trans (if_pos (of_decide_eq_true removes))
    | clear => exact held_clear kind id store
    | _ => cases removes

/-- An edit that concerns an identifier and has a payload has it for that identifier. -/
theorem payload?_eq_iff {edit : AssetEdit} {kind : AssetKind} {id : String}
    (concerned : edit.Concerns decoder kind id) {asset : Asset} (number stamp : Nat) :
    ((edit.payload? decoder).map fun payload => (payload.2, number)) = some (asset, stamp) ↔
      edit.payload? decoder = some (id, asset) ∧ stamp = number := by
  constructor
  · intro found
    obtain ⟨⟨name, payload⟩, stores, ⟨⟩⟩ := Option.map_eq_some_iff.1 found
    refine ⟨?_, rfl⟩
    rcases concerned with ⟨asset, inserted, -⟩ | removes
    · rw [stores] at inserted
      cases inserted
      exact stores
    · rw [AssetEdit.removes_of_payload (by rw [stores]; rfl)] at removes
      cases removes
  · rintro ⟨stores, rfl⟩
    rw [stores]
    rfl

/-- What is stored under a kind and an identifier was inserted by the last edit that
concerns them. -/
theorem held_edited_iff (edits : List AssetEdit) (kind : AssetKind) (id : String)
    (asset : Asset) (stamp : Nat) :
    (edited decoder edits.reverse).held kind id = some (asset, stamp) ↔
      ∃ earlier edit, LastOf (fun _ edit => edit.Concerns decoder kind id) earlier edit edits ∧
        edit.payload? decoder = some (id, asset) ∧ stamp = insertions decoder earlier + 1 := by
  refine holds_iff_lastOf (P := fun edits => (edited decoder edits.reverse).held kind id =
    some (asset, stamp)) (by cases kind <;> nofun) (fun edits new => ?_) edits
  rw [edited_concat]
  by_cases concerned : new.Concerns decoder kind id
  · rw [held_edit_of_concerned concerned, stamp_edited, AssetEdit.insertions_reverse]
    simp only [concerned, true_and, not_true_eq_false, false_and, or_false]
    exact payload?_eq_iff concerned (insertions decoder edits + 1) stamp
  · rw [held_edit_of_unconcerned concerned]
    simp only [concerned, false_and, false_or, not_false_eq_true, true_and]

theorem isSome_held (store : AssetStore) (kind : AssetKind) (id : String) :
    (store.held kind id).isSome = store.contains kind id := by
  cases kind <;> exact Option.isSome_map

/-- The kinds and identifiers under which something is stored. -/
def pairs (store : AssetStore) : List (AssetKind × String) :=
  store.images.keys.map (.image, ·) ++
    (store.streams.keys.map (.stream, ·) ++ store.fonts.keys.map (.font, ·))

theorem nodup_pairs (store : AssetStore) : store.pairs.Nodup := by
  have injective : ∀ (kind : AssetKind) (id other : String), (kind, id) = (kind, other) →
      id = other := fun _ _ _ same => (Prod.mk.inj same).2
  have fonts : (store.fonts.keys.map (AssetKind.font, ·)).Nodup :=
    List.Pairwise.map _ (fun id other differ same => differ (injective .font id other same))
      store.fonts.distinct
  refine store.images.nodup_map_append (injective .image)
    (store.streams.nodup_map_append (injective .stream) fonts ?_) ?_ <;> simp

theorem mem_pairs (store : AssetStore) (kind : AssetKind) (id : String) :
    (kind, id) ∈ store.pairs ↔ store.contains kind id = true := by
  cases kind <;> simp [pairs, contains, Table.contains_iff]

theorem length_pairs (store : AssetStore) : store.pairs.length = store.size := by
  simp [pairs, size, Table.keys, Table.size, Nat.add_assoc]

/-! ### Answers -/

/-- The answer to an edit: the change that it has made, if any, or why it failed. -/
def answer (decoder : ImageDecoder) (store : AssetStore) :
    AssetEdit → Except AssetError (Option AssetChange)
  | .insert id asset => .ok (some (store.insert id asset).1)
  | .putImage id bytes => (store.put id (Asset.ofImageFile decoder bytes)).1.map some
  | .putStream id format width height bytes =>
      (store.put id (Asset.ofStreamUpload decoder format width height bytes)).1.map some
  | .putFont id bytes => (store.put id (Asset.ofFontBytes bytes)).1.map some
  | .delete kind id => .ok (store.delete kind id).1
  | .clear => .ok none

/-- What comes of an edit, by the answer to it and the store that it leaves. -/
inductive Outcome (decoder : ImageDecoder) (store : AssetStore) (edit : AssetEdit) :
    Except AssetError (Option AssetChange) → AssetStore → Prop where
  | inserted {id : String} {asset : Asset} (stores : edit.payload? decoder = some (id, asset)) :
      Outcome decoder store edit (.ok (some ⟨asset.kind, id⟩)) (store.insert id asset).2
  | failed {error : AssetError} (refused : edit.payload? decoder = none) :
      Outcome decoder store edit (.error error) store
  | deleted {kind : AssetKind} {id : String} (deletes : edit = .delete kind id)
      (stored : (store.held kind id).isSome = true) :
      Outcome decoder store edit (.ok (some ⟨kind, id⟩)) (store.delete kind id).2
  | absent {kind : AssetKind} {id : String} (deletes : edit = .delete kind id)
      (absent : store.held kind id = none) : Outcome decoder store edit (.ok none) store
  | cleared (clears : edit = .clear) : Outcome decoder store edit (.ok none) store.clear

theorem outcome_put (store : AssetStore) {edit : AssetEdit} {id : String}
    {asset : Except AssetError Asset}
    (payload : edit.payload? decoder = asset.toOption.map (id, ·)) :
    store.Outcome decoder edit ((store.put id asset).1.map some) (store.put id asset).2 := by
  cases asset with
  | error error => exact .failed payload
  | ok asset => exact .inserted payload

theorem outcome_delete (store : AssetStore) (kind : AssetKind) (id : String) :
    store.Outcome decoder (.delete kind id) (.ok (store.delete kind id).1)
      (store.delete kind id).2 := by
  have stored := store.isSome_held kind id
  cases contained : store.contains kind id with
  | true =>
      rw [contained] at stored
      rw [show (store.delete kind id).1 = some ⟨kind, id⟩ from if_pos contained]
      exact .deleted rfl stored
  | false =>
      rw [contained] at stored
      have nothing : (store.delete kind id).1 = none := by simp [delete, contained]
      rw [nothing, delete_of_absent nothing]
      exact .absent rfl (Option.not_isSome_iff_eq_none.1 (by simp [stored]))

/-- An edit inserts, fails, deletes or clears, and it answers accordingly. -/
theorem outcome_edit (decoder : ImageDecoder) (store : AssetStore) (edit : AssetEdit) :
    store.Outcome decoder edit (store.answer decoder edit) (store.edit decoder edit) := by
  cases edit with
  | insert id asset => exact .inserted rfl
  | putImage id bytes => exact outcome_put store rfl
  | putStream id format width height bytes => exact outcome_put store rfl
  | putFont id bytes => exact outcome_put store rfl
  | delete kind id => exact outcome_delete store kind id
  | clear => exact .cleared rfl

theorem Outcome.eq_of_error {store after : AssetStore} {edit : AssetEdit} {error : AssetError}
    (outcome : store.Outcome decoder edit (.error error) after) : after = store := by
  cases outcome
  rfl

/-! ### Fonts -/

/-- A font has the number of an insertion so far. -/
theorem stamp_font_le {edits : List AssetEdit} {id : String} {font : Font}
    (found : (edited decoder edits.reverse).font? id = some font) :
    font.stamp ≤ insertions decoder edits := by
  have last : AssetEdit.lastInserted decoder .font id edits.reverse =
      some (.font font.file, font.stamp) := by
    rw [← held_edited, held, found]
    rfl
  rw [← AssetEdit.insertions_reverse]
  exact AssetEdit.lastInserted_le last

/-- A font that is inserted has the next number. -/
theorem font?_inserted {edits : List AssetEdit} {edit : AssetEdit} {id : String} {file : FontFile}
    (stores : edit.payload? decoder = some (id, .font file)) :
    (edited decoder (edits ++ [edit]).reverse).font? id =
      some ⟨file, insertions decoder edits + 1⟩ := by
  rw [edited_concat, edit_of_payload stores, ← AssetEdit.insertions_reverse, ← stamp_edited]
  exact (Table.find?_insert ..).trans (if_pos rfl)

/-! ### All there is -/

/-- A store is what the edits made in it have left. -/
structure Reflects (decoder : ImageDecoder) (store : AssetStore) (edits : List AssetEdit) :
    Prop where
  /-- Under a kind and an identifier is the payload of the last insertion there, unless it
  was deleted or all was cleared since. Its stamp numbers the insertion. -/
  payloads : ∀ kind id asset stamp, store.held kind id = some (asset, stamp) ↔
    ∃ earlier edit, LastOf (fun _ edit => edit.Concerns decoder kind id) earlier edit edits ∧
      edit.payload? decoder = some (id, asset) ∧ stamp = insertions decoder earlier + 1
  /-- A texture is the image of a name, or the stream where there is no image. -/
  textures : ∀ id, store.texture? id = (store.image? id).or (store.stream? id)
  /-- The size is the number of kinds and identifiers under which something is stored. -/
  size : ∃ pairs : List (AssetKind × String), pairs.Nodup ∧
    (∀ kind id, (kind, id) ∈ pairs ↔ (store.held kind id).isSome = true) ∧
    store.size = pairs.length

theorem reflects_edited (edits : List AssetEdit) :
    (edited decoder edits.reverse).Reflects decoder edits where
  payloads := held_edited_iff edits
  textures id := by
    unfold texture?
    cases (edited decoder edits.reverse).image? id <;> rfl
  size := ⟨_, nodup_pairs _, fun kind id => by rw [mem_pairs, isSome_held],
    (length_pairs _).symm⟩

end AssetStore

open AssetEdit (insertions)
open AssetStore (edited)

/-- **An asset store is what its history has left.** After any edits, the last one that
concerns a kind and an identifier decides what is stored there, and an edit of one kind
leaves the others alone, whatever the identifiers. Every edit inserts, fails, deletes or
clears, and answers by the change it has made, so it names what it has inserted or
deleted. One that fails changes nothing, nor anything that comes later. Every font gets a
stamp greater than those of all fonts stored ever before. -/
theorem asset_store_follows_history (decoder : ImageDecoder) (edits : List AssetEdit) :
    let store := edited decoder edits.reverse
    store.Reflects decoder edits ∧
      (∀ edit kind other id, edit.kind? = some other → kind ≠ other →
        (store.edit decoder edit).held kind id = store.held kind id) ∧
      (∀ edit, store.Outcome decoder edit (store.answer decoder edit) (store.edit decoder edit)) ∧
      (∀ edit error, store.answer decoder edit = .error error → ∀ later,
        edited decoder (edits ++ edit :: later).reverse = edited decoder (edits ++ later).reverse) ∧
      ∀ earlier edit id file, earlier ++ [edit] <+: edits →
        edit.payload? decoder = some (id, .font file) →
          ∃ font, (edited decoder (earlier ++ [edit]).reverse).font? id = some font ∧
            font.file = file ∧
            ∀ before name other, before <+: earlier →
              (edited decoder before.reverse).font? name = some other →
                other.stamp < font.stamp := by
  intro store
  refine ⟨AssetStore.reflects_edited edits, ?_, store.outcome_edit decoder, ?_, ?_⟩
  · intro edit kind other id about differs
    exact AssetStore.held_edit_of_unconcerned
      (AssetEdit.not_concerns_of_kind about differs id) store
  · intro edit error failed later
    have unchanged : store.edit decoder edit = store := by
      have outcome := store.outcome_edit decoder edit
      rw [failed] at outcome
      exact outcome.eq_of_error
    rw [AssetStore.edited_append, List.foldl_cons, unchanged, AssetStore.edited_append]
  · intro earlier edit id file _ stores
    refine ⟨_, AssetStore.font?_inserted stores, rfl, fun before name other prior found => ?_⟩
    exact Nat.lt_succ_of_le (Nat.le_trans (AssetStore.stamp_font_le found)
      (AssetEdit.insertions_le_of_prefix prior))

/-- An empty font is refused and takes no number; an image of the same name comes and goes
without a trace in the fonts. -/
example :
    let store := edited (fun _ => .error [])
      [.putFont "ui" [1], .putFont "ui" [], .insert "ui" (.image ⟨1, 1, #[.clear]⟩),
        .delete .image "ui", .delete .stream "ui", .putFont "ui" [2]].reverse
    store.held .font "ui" = some (.font ⟨[2], by decide⟩, 3) ∧ store.texture? "ui" = none ∧
      store.size = 1 := by decide

end ScenePlayer
