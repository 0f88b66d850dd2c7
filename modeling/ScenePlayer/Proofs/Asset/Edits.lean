import ScenePlayer.Asset.Store

/-!
Histories of an asset store. What is stored under a kind and an identifier is
decided by the last edit that concerns them: it is the payload of an insertion,
with the number of that insertion among all, or nothing (`lastInserted`). Refused
payloads concern nothing, and the kinds do not concern each other. The store
agrees after every history (`held_edited`), however image files are decoded.
-/

namespace ScenePlayer

/-- An operation on an asset store, with its arguments. -/
inductive AssetEdit where
  | insert (id : String) (asset : Asset)
  | putImage (id : String) (bytes : Bytes)
  | putStream (id : String) (format : TextureFormat) (width height : Nat) (bytes : Bytes)
  | putFont (id : String) (bytes : Bytes)
  | delete (kind : AssetKind) (id : String)
  | clear
  deriving DecidableEq, Repr

namespace AssetEdit

variable (decoder : ImageDecoder)

/-- The payload to be stored, unless the edit is a removal or refused. -/
def payload? : AssetEdit → Option (String × Asset)
  | insert id asset => some (id, asset)
  | putImage id bytes => (Asset.ofImageFile decoder bytes).toOption.map (id, ·)
  | putStream id format width height bytes =>
      (Asset.ofStreamUpload decoder format width height bytes).toOption.map (id, ·)
  | putFont id bytes => (Asset.ofFontBytes bytes).toOption.map (id, ·)
  | delete .. => none
  | clear => none

/-- Whether nothing is left under a kind and an identifier. -/
def removes (kind : AssetKind) (id : String) : AssetEdit → Bool
  | delete deleted name => decide (deleted = kind ∧ name = id)
  | clear => true
  | _ => false

/-- How many payloads a history has stored. -/
def insertions (history : List AssetEdit) : Nat :=
  history.countP fun edit => (edit.payload? decoder).isSome

/-- The payload that a history, latest edit first, leaves under a kind and an
identifier, and the number of its insertion. -/
def lastInserted (kind : AssetKind) (id : String) : List AssetEdit → Option (Asset × Nat)
  | [] => none
  | edit :: earlier =>
      match edit.payload? decoder with
      | some (name, asset) =>
          if asset.kind = kind ∧ name = id then some (asset, insertions decoder earlier + 1)
          else lastInserted kind id earlier
      | none => if edit.removes kind id then none else lastInserted kind id earlier

/-! ### Numbers of insertions -/

variable {decoder}

theorem insertions_cons (edit : AssetEdit) (earlier : List AssetEdit) :
    insertions decoder (edit :: earlier) =
      insertions decoder earlier + if (edit.payload? decoder).isSome then 1 else 0 :=
  List.countP_cons

/-- What is left after one more edit was inserted by it or was left before. -/
theorem lastInserted_cons {kind : AssetKind} {id : String} {edit : AssetEdit}
    {earlier : List AssetEdit} {found : Asset × Nat}
    (last : lastInserted decoder kind id (edit :: earlier) = some found) :
    (∃ asset, edit.payload? decoder = some (id, asset) ∧ asset.kind = kind ∧
      found = (asset, insertions decoder earlier + 1)) ∨
      lastInserted decoder kind id earlier = some found := by
  rw [lastInserted] at last
  split at last
  · rename_i name asset stores
    split at last
    · rename_i concerned
      obtain ⟨isKind, rfl⟩ := concerned
      exact .inl ⟨asset, stores, isKind, (Option.some.inj last).symm⟩
    · exact .inr last
  · split at last
    · cases last
    · exact .inr last

theorem lastInserted_le {kind : AssetKind} {id : String} {history : List AssetEdit}
    {asset : Asset} {number : Nat}
    (last : lastInserted decoder kind id history = some (asset, number)) :
    number ≤ insertions decoder history := by
  induction history with
  | nil => cases last
  | cons edit earlier ih =>
      rw [insertions_cons]
      rcases lastInserted_cons last with ⟨stored, stores, -, same⟩ | before
      · cases same
        simp [stores]
      · exact Nat.le_add_right_of_le (ih before)

/-- The number of an insertion tells under which kind and identifier it was. -/
theorem lastInserted_unique {kind other : AssetKind} {id name : String}
    {history : List AssetEdit} {asset payload : Asset} {number : Nat}
    (left : lastInserted decoder kind id history = some (asset, number))
    (right : lastInserted decoder other name history = some (payload, number)) :
    kind = other ∧ id = name := by
  induction history with
  | nil => cases left
  | cons edit earlier ih =>
      rcases lastInserted_cons left with ⟨first, stores, isKind, same⟩ | leftBefore
      · rcases lastInserted_cons right with ⟨second, storesToo, isOther, sameToo⟩ | rightBefore
        · rw [stores] at storesToo
          cases storesToo
          exact ⟨isKind.symm.trans isOther, rfl⟩
        · cases same
          exact absurd (lastInserted_le rightBefore) (Nat.not_succ_le_self _)
      · rcases lastInserted_cons right with ⟨second, stores, -, same⟩ | rightBefore
        · cases same
          exact absurd (lastInserted_le leftBefore) (Nat.not_succ_le_self _)
        · exact ih leftBefore rightBefore

end AssetEdit

namespace AssetStore

variable (decoder : ImageDecoder)

/-- The store that an operation leaves. -/
def edit (store : AssetStore) : AssetEdit → AssetStore
  | .insert id asset => (store.insert id asset).2
  | .putImage id bytes => (store.put id (Asset.ofImageFile decoder bytes)).2
  | .putStream id format width height bytes =>
      (store.put id (Asset.ofStreamUpload decoder format width height bytes)).2
  | .putFont id bytes => (store.put id (Asset.ofFontBytes bytes)).2
  | .delete kind id => (store.delete kind id).2
  | .clear => store.clear

/-- The store that a history, latest edit first, leaves of the empty one. -/
def edited (history : List AssetEdit) : AssetStore :=
  history.foldr (fun edit store => store.edit decoder edit) {}

/-- The payload stored under a kind and an identifier, and its stamp. -/
def held (kind : AssetKind) (id : String) (store : AssetStore) : Option (Asset × Nat) :=
  match kind with
  | .image => (store.image? id).map fun texture => (.image texture.picture, texture.stamp)
  | .stream => (store.stream? id).map fun texture => (.stream texture.picture, texture.stamp)
  | .font => (store.font? id).map fun font => (.font font.file, font.stamp)

/-! ### One edit -/

variable {decoder}

theorem put_eq (id : String) (asset : Except AssetError Asset) (store : AssetStore) :
    (store.put id asset).2 =
      match asset.toOption with
      | some asset => (store.insert id asset).2
      | none => store := by
  cases asset <;> rfl

/-- An edit stores its payload, or removes something, or does nothing. -/
theorem edit_of_payload {edit : AssetEdit} {id : String} {asset : Asset}
    (stores : edit.payload? decoder = some (id, asset)) (store : AssetStore) :
    store.edit decoder edit = (store.insert id asset).2 := by
  have put : ∀ (name : String) (payload : Except AssetError Asset),
      payload.toOption.map (name, ·) = some (id, asset) →
        (store.put name payload).2 = (store.insert id asset).2 := by
    intro name payload eq
    obtain ⟨stored, isStored, pair⟩ := Option.map_eq_some_iff.1 eq
    cases pair
    rw [put_eq, isStored]
  cases edit with
  | insert name payload =>
      cases stores
      rfl
  | putImage name bytes => exact put name _ stores
  | putStream name format width height bytes => exact put name _ stores
  | putFont name bytes => exact put name _ stores
  | delete kind name => cases stores
  | clear => cases stores

theorem edit_of_refused {edit : AssetEdit} (refused : edit.payload? decoder = none)
    (store : AssetStore) :
    (store.edit decoder edit = store ∧ ∀ kind id, edit.removes kind id = false) ∨
      (∃ kind id, edit = .delete kind id) ∨ edit = .clear := by
  have put : ∀ (name : String) (payload : Except AssetError Asset),
      payload.toOption.map (name, ·) = none → (store.put name payload).2 = store := by
    intro name payload eq
    rw [put_eq, Option.map_eq_none_iff.1 eq]
  cases edit with
  | insert name payload => cases refused
  | putImage name bytes => exact .inl ⟨put name _ refused, fun _ _ => rfl⟩
  | putStream name format width height bytes => exact .inl ⟨put name _ refused, fun _ _ => rfl⟩
  | putFont name bytes => exact .inl ⟨put name _ refused, fun _ _ => rfl⟩
  | delete kind name => exact .inr (.inl ⟨kind, name, rfl⟩)
  | clear => exact .inr (.inr rfl)

theorem held_insert (id other : String) (kind : AssetKind) (asset : Asset) (store : AssetStore) :
    (store.insert id asset).2.held kind other =
      if asset.kind = kind ∧ id = other then some (asset, store.stamp + 1)
      else store.held kind other := by
  cases asset <;> cases kind <;>
    simp only [insert, held, image?, stream?, font?, Asset.kind, Table.find?_insert, reduceCtorEq,
      false_and, true_and, if_false] <;>
    split <;> rfl

theorem held_delete (kind other : AssetKind) (id name : String) (store : AssetStore) :
    (store.delete kind id).2.held other name =
      if kind = other ∧ id = name then none else store.held other name := by
  cases kind <;> cases other <;>
    simp only [delete, held, image?, stream?, font?, Table.find?_erase, reduceCtorEq,
      false_and, true_and, if_false] <;>
    split <;> rfl

theorem held_clear (kind : AssetKind) (id : String) (store : AssetStore) :
    store.clear.held kind id = none := by
  cases kind <;> rfl

/-- Deleting what is not stored changes nothing. -/
theorem delete_of_absent {kind : AssetKind} {id : String} {store : AssetStore}
    (absent : (store.delete kind id).1 = none) : (store.delete kind id).2 = store := by
  have missing : store.contains kind id = false := by
    rcases contained : store.contains kind id with _ | _
    · rfl
    · simp [delete, contained] at absent
  cases kind <;> simp only [delete, Table.erase_of_absent missing]

/-! ### Histories -/

theorem edited_cons (edit : AssetEdit) (history : List AssetEdit) :
    edited decoder (edit :: history) = (edited decoder history).edit decoder edit := rfl

/-- Stamps number the insertions. -/
theorem stamp_edited (history : List AssetEdit) :
    (edited decoder history).stamp = AssetEdit.insertions decoder history := by
  induction history with
  | nil => rfl
  | cons edit earlier ih =>
      rw [edited_cons, AssetEdit.insertions_cons]
      cases stores : edit.payload? decoder with
      | some payload =>
          rw [edit_of_payload stores, stamp_insert, ih]
          rfl
      | none =>
          rcases edit_of_refused stores (edited decoder earlier) with
            ⟨same, -⟩ | ⟨kind, id, rfl⟩ | rfl
          · rw [same, ih]
            rfl
          · exact (stamp_delete kind id _).trans ih
          · exact ih

/-- The store holds what was inserted last and not removed since. -/
theorem held_edited (kind : AssetKind) (id : String) (history : List AssetEdit) :
    (edited decoder history).held kind id = AssetEdit.lastInserted decoder kind id history := by
  induction history with
  | nil => cases kind <;> rfl
  | cons edit earlier ih =>
      rw [edited_cons, AssetEdit.lastInserted]
      cases stores : edit.payload? decoder with
      | some payload =>
          rw [edit_of_payload stores, held_insert, stamp_edited, ih]
      | none =>
          dsimp only
          rcases edit_of_refused stores (edited decoder earlier) with
            ⟨same, kept⟩ | ⟨deleted, name, rfl⟩ | rfl
          · rw [same, kept, ih]
            rfl
          · rw [← ih]
            exact (held_delete deleted kind name id _).trans (by simp [AssetEdit.removes])
          · exact held_clear kind id _

end AssetStore

end ScenePlayer
