import ScenePlayer.Proofs.Paint.Coherence

/-!
The entries of a shader cache. Each is kept under a key, in one of three tables, and says
when it was used last and of which payload it was made (`ShaderCache.entryAt?`). There is
one law for each operation: what it leaves under every key. Only the end of a frame
changes the number of the frame and counts evictions (`ShaderCache.Paced`).
-/

namespace ScenePlayer

variable {σ S : Type}

/-- What a shader is kept under. -/
inductive ShaderKey where
  | gradient (key : GradientKey)
  | texture (kind : TextureKind) (id : String)
  deriving DecidableEq, Repr

/-- The key of a paint; a colour has none. -/
def Paint.shaderKey? : Paint → Option ShaderKey
  | .colour _ => none
  | .gradient source => some (.gradient source.key)
  | .image id => some (.texture .image id)
  | .stream id => some (.texture .stream id)

/-- The asset of which a shader is made, if any. -/
def ShaderKey.asset? : ShaderKey → Option (AssetKind × String)
  | .gradient _ => none
  | .texture kind id => some (kind.asset, id)

/-- The stamp of the payload that is stored for a key. -/
def AssetStore.stampOf (assets : AssetStore) : ShaderKey → Option Nat
  | .gradient _ => none
  | .texture kind id => (assets.textureOf kind id).map Texture.stamp

namespace ShaderCache

/-- The frame in which the entry under a key was used last, and the stamp that it carries. -/
def entryAt? (cache : ShaderCache S) : ShaderKey → Option (Nat × Option Nat)
  | .gradient key => (cache.gradients.find? key).map fun entry => (entry.lastUsed, none)
  | .texture kind id =>
      ((cache.textures kind).find? id).map fun entry => (entry.lastUsed, some entry.stamp)

/-- The frame in which the entry under a key was used last, if there is one. -/
def lastUse? (cache : ShaderCache S) (key : ShaderKey) : Option Nat :=
  (cache.entryAt? key).map Prod.fst

/-- The keys under which there are entries. -/
def keys (cache : ShaderCache S) : List ShaderKey :=
  cache.gradients.keys.map .gradient ++
    (cache.images.keys.map (.texture .image) ++ cache.streams.keys.map (.texture .stream))

variable {cache : ShaderCache S} {build : Builder σ S} {assets : AssetStore} {paint : Paint}
  {surface : σ}

theorem entryAt?_congr {after : ShaderCache S} (gradients : after.gradients = cache.gradients)
    (textures : after.textures = cache.textures) (key : ShaderKey) :
    after.entryAt? key = cache.entryAt? key := by
  cases key with
  | gradient key => rw [entryAt?, gradients, entryAt?]
  | texture kind id => rw [entryAt?, textures, entryAt?]

theorem entryAt?_insertGradient (cache : ShaderCache S) {key : GradientKey}
    {entry : GradientEntry S} {after : ShaderCache S}
    (gradients : after.gradients = cache.gradients.insert key entry)
    (textures : after.textures = cache.textures) (other : ShaderKey) :
    after.entryAt? other =
      if other = .gradient key then some (entry.lastUsed, none) else cache.entryAt? other := by
  cases other with
  | gradient different =>
      simp only [entryAt?, gradients, Table.find?_insert, ShaderKey.gradient.injEq,
        eq_comm (a := different)]
      split <;> rfl
  | texture kind id => simp only [entryAt?, textures, reduceCtorEq, if_false]

/-- A change of the entry of one texture. -/
theorem entryAt?_setTextures {kind : TextureKind} {id : String} {entry : Option (TextureEntry S)}
    {entries : Table String (TextureEntry S)}
    (changed : ∀ name, entries.find? name =
      if id = name then entry else (cache.textures kind).find? name) (other : ShaderKey) :
    (cache.setTextures kind entries).entryAt? other =
      if other = .texture kind id then entry.map fun entry => (entry.lastUsed, some entry.stamp)
      else cache.entryAt? other := by
  cases other with
  | gradient key => simp only [entryAt?, gradients_setTextures, reduceCtorEq, if_false]
  | texture otherKind name =>
      simp only [entryAt?, textures_setTextures, ShaderKey.texture.injEq]
      by_cases sameKind : kind = otherKind
      · subst sameKind
        rw [if_pos rfl, changed]
        by_cases same : id = name
        · simp [same]
        · simp [same, Ne.symm same]
      · simp [sameKind, Ne.symm sameKind]

/-- A resolution decides about the entry under one key: it has been used in this frame, for
the payload that is stored, if the resolution succeeds, and is missing else. -/
def Leaves (cache : ShaderCache S) (assets : AssetStore) (target : ShaderKey)
    (resolution : Resolution σ S) : Prop :=
  ∀ key, resolution.2.1.entryAt? key =
    if key = target then
      if resolution.1.isOk then some (cache.frame, assets.stampOf target) else none
    else cache.entryAt? key

/-- A failure that changes nothing leaves no entry where there was none. -/
theorem leaves_of_failed {target : ShaderKey} {error : ResolveError} {after : ShaderCache S}
    (vacant : cache.entryAt? target = none)
    (same : ∀ key, after.entryAt? key = cache.entryAt? key) :
    cache.Leaves assets target (.error error, after, surface) := by
  intro key
  dsimp only [Except.isOk, Except.toBool]
  rw [same]
  split
  · rename_i here
    rw [here, vacant]
    rfl
  · rfl

theorem leaves_insertGradient {gradient : Gradient} {shader : S} {after : ShaderCache S}
    (surface : σ)
    (gradients : after.gradients = cache.gradients.insert gradient.key ⟨shader, cache.frame⟩)
    (textures : after.textures = cache.textures) :
    cache.Leaves assets (.gradient gradient.key) (.ok (.shader shader), after, surface) :=
  fun key => entryAt?_insertGradient cache gradients textures key

theorem leaves_resolveGradient (build : Builder σ S) (assets : AssetStore)
    (gradient : Gradient) (cache : ShaderCache S) (surface : σ) :
    cache.Leaves assets (.gradient gradient.key)
      (cache.resolveGradient build gradient surface) := by
  cases found : cache.gradients.find? gradient.key with
  | some entry =>
      simp only [resolveGradient, found]
      exact leaves_insertGradient surface rfl rfl
  | none =>
      have vacant : cache.entryAt? (.gradient gradient.key) = none := by
        rw [entryAt?, found]
        rfl
      simp only [resolveGradient, found]
      rcases build (.gradient gradient) surface with ⟨_ | shader, after⟩
      · exact leaves_of_failed vacant (entryAt?_congr rfl rfl)
      · exact leaves_insertGradient after rfl rfl

theorem entryAt?_insertTexture (cache : ShaderCache S) (kind : TextureKind) (id : String)
    (entry : TextureEntry S) (other : ShaderKey) :
    (cache.setTextures kind ((cache.textures kind).insert id entry)).entryAt? other =
      if other = .texture kind id then some (entry.lastUsed, some entry.stamp)
      else cache.entryAt? other :=
  entryAt?_setTextures (fun name => Table.find?_insert (cache.textures kind) id name entry) other

theorem entryAt?_eraseTexture (cache : ShaderCache S) (kind : TextureKind) (id : String)
    (other : ShaderKey) :
    (cache.setTextures kind ((cache.textures kind).erase id)).entryAt? other =
      if other = .texture kind id then none else cache.entryAt? other :=
  entryAt?_setTextures (fun name => Table.find?_erase (cache.textures kind) id name) other

theorem leaves_buildTexture (build : Builder σ S) {kind : TextureKind} {id : String}
    (vacant : cache.entryAt? (.texture kind id) = none) (surface : σ) :
    cache.Leaves assets (.texture kind id)
      (cache.buildTexture build kind id (assets.textureOf kind id) surface) := by
  unfold buildTexture
  cases current : assets.textureOf kind id with
  | none => exact leaves_of_failed vacant (entryAt?_congr rfl rfl)
  | some texture =>
      dsimp only
      rcases build (.texture texture) surface with ⟨_ | shader, after⟩
      · exact leaves_of_failed vacant (entryAt?_congr rfl rfl)
      · intro key
        have stamp : assets.stampOf (.texture kind id) = some texture.stamp := by
          rw [AssetStore.stampOf, current]
          rfl
        rw [stamp]
        exact entryAt?_insertTexture _ kind id _ key

theorem Leaves.of_erased {kind : TextureKind} {id : String} {resolution : Resolution σ S}
    (leaves : (cache.setTextures kind ((cache.textures kind).erase id)).Leaves assets
      (.texture kind id) resolution) :
    cache.Leaves assets (.texture kind id) resolution := by
  intro key
  have frame : (cache.setTextures kind ((cache.textures kind).erase id)).frame = cache.frame := by
    cases kind <;> rfl
  rw [leaves key, frame, entryAt?_eraseTexture]
  split <;> rfl

theorem leaves_resolveTexture (build : Builder σ S) (assets : AssetStore) (kind : TextureKind)
    (id : String) (cache : ShaderCache S) (surface : σ) :
    cache.Leaves assets (.texture kind id)
      (cache.resolveTexture build assets kind id surface) := by
  unfold resolveTexture
  dsimp only
  cases found : (cache.textures kind).find? id with
  | none =>
      refine leaves_buildTexture build ?_ surface
      rw [entryAt?, found]
      rfl
  | some entry =>
      dsimp only
      split
      · rename_i current
        intro key
        have stamp : assets.stampOf (.texture kind id) = some entry.stamp := current
        rw [stamp]
        exact (entryAt?_congr rfl rfl key).trans (entryAt?_insertTexture cache kind id _ key)
      · refine (leaves_buildTexture build ?_ surface).of_erased
        exact (entryAt?_eraseTexture cache kind id _).trans (if_pos rfl)

/-- What a resolution leaves under all keys. -/
theorem entryAt?_resolve (build : Builder σ S) (assets : AssetStore) (paint : Paint)
    (cache : ShaderCache S) (surface : σ) (key : ShaderKey) :
    (cache.resolve build assets paint surface).2.1.entryAt? key =
      if paint.shaderKey? = some key then
        if (cache.resolve build assets paint surface).1.isOk then
          some (cache.frame, assets.stampOf key)
        else none
      else cache.entryAt? key := by
  have ofLeaves : ∀ {target : ShaderKey} {resolution : Resolution σ S},
      cache.Leaves assets target resolution → resolution.2.1.entryAt? key =
        if some target = some key then
          if resolution.1.isOk then some (cache.frame, assets.stampOf key) else none
        else cache.entryAt? key := by
    intro target resolution leaves
    rw [leaves key]
    by_cases here : key = target
    · simp [here]
    · simp [here, Ne.symm here]
  cases paint with
  | colour colour => rfl
  | gradient gradient => exact ofLeaves (leaves_resolveGradient build assets gradient cache surface)
  | image id => exact ofLeaves (leaves_resolveTexture build assets .image id cache surface)
  | stream id => exact ofLeaves (leaves_resolveTexture build assets .stream id cache surface)

/-- A paint whose entry was made for the payload that is stored is found. -/
theorem isOk_resolve {key : ShaderKey} (isKey : paint.shaderKey? = some key) {frame : Nat}
    (found : cache.entryAt? key = some (frame, assets.stampOf key)) (build : Builder σ S)
    (surface : σ) : (cache.resolve build assets paint surface).1.isOk = true := by
  have ofTexture : ∀ kind id, cache.entryAt? (.texture kind id) =
      some (frame, assets.stampOf (.texture kind id)) →
        (cache.resolveTexture build assets kind id surface).1.isOk = true := by
    intro kind id found
    obtain ⟨entry, stored, same⟩ := Option.map_eq_some_iff.1 found
    have current : (assets.textureOf kind id).map Texture.stamp = some entry.stamp :=
      (Prod.mk.inj same).2.symm
    simp only [resolveTexture, stored, if_pos current]
    rfl
  cases paint with
  | colour colour => cases isKey
  | gradient gradient =>
      cases isKey
      obtain ⟨entry, stored, -⟩ := Option.map_eq_some_iff.1 found
      simp only [resolve, resolveGradient, stored]
      rfl
  | image id =>
      cases isKey
      exact ofTexture .image id found
  | stream id =>
      cases isKey
      exact ofTexture .stream id found

theorem entryAt?_invalidate (cache : ShaderCache S) (kind : AssetKind) (id : String)
    (key : ShaderKey) :
    (cache.invalidate kind id).2.entryAt? key =
      if key.asset? = some (kind, id) then none else cache.entryAt? key := by
  have dropped : ∀ textureKind : TextureKind,
      (cache.dropTexture textureKind id).2.entryAt? key =
        if key.asset? = some (textureKind.asset, id) then none else cache.entryAt? key := by
    intro textureKind
    have isTexture : key.asset? = some (textureKind.asset, id) ↔ key = .texture textureKind id := by
      cases key with
      | gradient key => simp [ShaderKey.asset?]
      | texture other name => cases other <;> cases textureKind <;>
          simp [ShaderKey.asset?, TextureKind.asset]
    simp only [isTexture]
    unfold dropTexture
    split
    · exact (entryAt?_congr rfl rfl key).trans (entryAt?_eraseTexture cache textureKind id key)
    · rename_i absent
      split
      · rename_i here
        rw [here, entryAt?, Option.map_eq_none_iff]
        simpa [Table.contains] using absent
      · rfl
  cases kind with
  | image => exact dropped .image
  | stream => exact dropped .stream
  | font =>
      have isTexture : key.asset? ≠ some (.font, id) := by
        cases key with
        | gradient key => simp [ShaderKey.asset?]
        | texture other name => cases other <;> simp [ShaderKey.asset?, TextureKind.asset]
      exact (if_neg isTexture).symm

theorem entryAt?_clear (cache : ShaderCache S) (key : ShaderKey) :
    cache.clear.entryAt? key = none := by
  cases key with
  | gradient key => rfl
  | texture kind id => cases kind <;> rfl

theorem entryAt?_endFrame (cache : ShaderCache S) (key : ShaderKey) :
    cache.endFrame.2.entryAt? key =
      (cache.entryAt? key).filter fun entry => cache.isLive entry.1 := by
  cases key with
  | gradient key =>
      have kept : cache.endFrame.2.gradients.find? key =
          (cache.gradients.find? key).filter fun entry => cache.isLive entry.lastUsed :=
        Table.find?_filter _ _ _
      rw [entryAt?, entryAt?, kept, Option.filter_map]
      rfl
  | texture kind id =>
      rw [entryAt?, entryAt?, textures_endFrame, Table.find?_filter, Option.filter_map]
      rfl

/-! ### The keys of a cache -/

theorem nodup_keys (cache : ShaderCache S) : cache.keys.Nodup := by
  have injective : ∀ (kind : TextureKind) (id other : String),
      ShaderKey.texture kind id = .texture kind other → id = other :=
    fun _ _ _ same => (ShaderKey.texture.inj same).2
  have streams : (cache.streams.keys.map (ShaderKey.texture .stream)).Nodup :=
    List.Pairwise.map _ (fun id other differ same => differ (injective .stream id other same))
      cache.streams.distinct
  refine cache.gradients.nodup_map_append (fun _ _ => ShaderKey.gradient.inj)
    (cache.images.nodup_map_append (injective .image) streams ?_) ?_ <;> simp

theorem mem_keys (cache : ShaderCache S) (key : ShaderKey) :
    key ∈ cache.keys ↔ (cache.entryAt? key).isSome = true := by
  cases key with
  | gradient key => simp [keys, entryAt?, ← Table.contains_iff, Table.contains]
  | texture kind id =>
      cases kind <;> simp [keys, entryAt?, textures, ← Table.contains_iff, Table.contains]

theorem length_keys (cache : ShaderCache S) : cache.keys.length = cache.size := by
  simp [keys, size, Table.keys, Table.size, Nat.add_assoc]

/-- The end of a frame answers with the number of keys whose entries it drops. -/
theorem endFrame_eq_length (cache : ShaderCache S) :
    cache.endFrame.1 =
      (cache.keys.filter fun key => (cache.endFrame.2.entryAt? key).isNone).length := by
  have kept : cache.endFrame.2.keys.Perm
      (cache.keys.filter fun key => (cache.endFrame.2.entryAt? key).isSome) := by
    refine (List.perm_ext_iff_of_nodup (nodup_keys _) ((nodup_keys _).filter _)).2 fun key => ?_
    rw [List.mem_filter, mem_keys, mem_keys]
    refine ⟨fun after => ⟨?_, after⟩, And.right⟩
    obtain ⟨entry, found⟩ := Option.isSome_iff_exists.1 after
    rw [entryAt?_endFrame, Option.filter_eq_some_iff] at found
    rw [found.1]
    rfl
  have parts : cache.keys.length =
      (cache.keys.filter fun key => (cache.endFrame.2.entryAt? key).isSome).length +
        (cache.keys.filter fun key => (cache.endFrame.2.entryAt? key).isNone).length := by
    rw [← List.countP_eq_length_filter, ← List.countP_eq_length_filter,
      List.length_eq_countP_add_countP fun key => (cache.endFrame.2.entryAt? key).isSome]
    congr 2
    funext key
    cases cache.endFrame.2.entryAt? key <;> rfl
  have size : cache.endFrame.1 = cache.size - cache.endFrame.2.size := rfl
  rw [size, ← length_keys, ← length_keys, kept.length_eq, parts, Nat.add_sub_cancel_left]

/-! ### What stays -/

/-- Neither the limit, nor the number of the frame, nor the number of evictions has
changed. -/
structure Paced (cache after : ShaderCache S) : Prop where
  idleFrames : after.idleFrames = cache.idleFrames
  frame : after.frame = cache.frame
  evictions : after.evictions = cache.evictions

theorem paced_setTextures (cache : ShaderCache S) (kind : TextureKind)
    (entries : Table String (TextureEntry S)) : cache.Paced (cache.setTextures kind entries) := by
  cases kind <;> exact ⟨rfl, rfl, rfl⟩

theorem Paced.trans {first second third : ShaderCache S} (left : first.Paced second)
    (right : second.Paced third) : first.Paced third :=
  ⟨right.idleFrames.trans left.idleFrames, right.frame.trans left.frame,
    right.evictions.trans left.evictions⟩

theorem paced_buildTexture (build : Builder σ S) (kind : TextureKind) (id : String)
    (current : Option Texture) (cache : ShaderCache S) (surface : σ) :
    cache.Paced (cache.buildTexture build kind id current surface).2.1 := by
  unfold buildTexture
  cases current with
  | none => exact ⟨rfl, rfl, rfl⟩
  | some texture =>
      dsimp only
      rcases build (.texture texture) surface with ⟨_ | shader, after⟩
      · exact ⟨rfl, rfl, rfl⟩
      · have inserted := paced_setTextures { cache with misses := cache.misses + 1 } kind
        exact ⟨(inserted _).idleFrames, (inserted _).frame, (inserted _).evictions⟩

theorem paced_resolve (build : Builder σ S) (assets : AssetStore) (paint : Paint)
    (cache : ShaderCache S) (surface : σ) :
    cache.Paced (cache.resolve build assets paint surface).2.1 := by
  have ofTexture : ∀ kind id,
      cache.Paced (cache.resolveTexture build assets kind id surface).2.1 := by
    intro kind id
    unfold resolveTexture
    dsimp only
    split
    · exact paced_buildTexture build kind id _ cache surface
    · split
      · have touched := paced_setTextures cache kind
        exact ⟨(touched _).idleFrames, (touched _).frame, (touched _).evictions⟩
      · exact (paced_setTextures cache kind _).trans (paced_buildTexture build kind id _ _ surface)
  cases paint with
  | colour colour => exact ⟨rfl, rfl, rfl⟩
  | gradient gradient =>
      simp only [resolve, resolveGradient]
      split
      · exact ⟨rfl, rfl, rfl⟩
      · rcases build (.gradient gradient) surface with ⟨_ | shader, after⟩ <;>
          exact ⟨rfl, rfl, rfl⟩
  | image id => exact ofTexture .image id
  | stream id => exact ofTexture .stream id

theorem paced_invalidate (cache : ShaderCache S) (kind : AssetKind) (id : String) :
    cache.Paced (cache.invalidate kind id).2 := by
  have dropped : ∀ textureKind, cache.Paced (cache.dropTexture textureKind id).2 := by
    intro textureKind
    unfold dropTexture
    split
    · have erased := paced_setTextures cache textureKind
      exact ⟨(erased _).idleFrames, (erased _).frame, (erased _).evictions⟩
    · exact ⟨rfl, rfl, rfl⟩
  cases kind with
  | image => exact dropped .image
  | stream => exact dropped .stream
  | font => exact ⟨rfl, rfl, rfl⟩

end ShaderCache

end ScenePlayer
