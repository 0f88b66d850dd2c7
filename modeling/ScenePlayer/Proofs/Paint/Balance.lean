import ScenePlayer.Proofs.Paint.Currency
import ScenePlayer.Proofs.Paint.Entries
import ScenePlayer.Proofs.Paint.Supply

/-!
The counters of a shader cache balance. Every resolution of a paint other than a colour is
a hit or a miss, and every miss fails or is delivered a shader. A shader that is delivered
becomes an entry, and an entry goes in one of four ways: it is evicted, invalidated, cleared,
or found stale by a resolution (`shader_counters_balance`).

The cache counts neither what it clears nor what it finds stale, so books are kept beside it
(`ShaderBooks`), and each order keeps them balanced (`ShaderBooks.Balanced.serve`). A
resolution concerns the entry under one key: the number of entries changes by what is under
that key before and after (`ShaderCache.size_add_isSome`), and what it adds to the counters
depends on whether the shader is held (`ShaderCache.counts_resolve`).
-/

namespace ScenePlayer

variable {σ S : Type}

namespace ShaderCache

/-- There is an entry under the key, made for another payload than the one stored. -/
def isStale (assets : AssetStore) (cache : ShaderCache S) (key : ShaderKey) : Bool :=
  (cache.entryAt? key).any fun entry => decide (entry.2 ≠ assets.stampOf key)

/-- How many shaders surfaces have delivered. -/
def delivered (requests : Requests S) : Nat := requests.countP fun request => request.2.isSome

variable {cache after : ShaderCache S} {assets : AssetStore} {paint : Paint} {key : ShaderKey}

/-! ### The number of entries -/

/-- If the entries under all keys but one are the same, the numbers of entries differ by that
one. -/
theorem size_add_isSome (target : ShaderKey)
    (others : ∀ key, key ≠ target → after.entryAt? key = cache.entryAt? key) :
    after.size + (cache.entryAt? target).isSome.toNat =
      cache.size + (after.entryAt? target).isSome.toNat := by
  have parts : ∀ cache : ShaderCache S, cache.size =
      (cache.keys.erase target).length + (cache.entryAt? target).isSome.toNat := by
    intro cache
    have present := cache.mem_keys target
    rw [← length_keys, List.length_erase]
    cases found : (cache.entryAt? target).isSome with
    | false => simp [present, found]
    | true =>
        have member := present.2 found
        have positive := List.length_pos_of_mem member
        simp only [member, if_true, Bool.toNat_true]
        omega
  have rest : (after.keys.erase target).Perm (cache.keys.erase target) := by
    refine (List.perm_ext_iff_of_nodup (after.nodup_keys.erase target)
      (cache.nodup_keys.erase target)).2 fun key => ?_
    rw [after.nodup_keys.mem_erase_iff, cache.nodup_keys.mem_erase_iff, mem_keys, mem_keys]
    exact and_congr_right fun differs => by rw [others key differs]
  rw [parts after, parts cache, rest.length_eq]
  omega

theorem size_resolve (isKey : paint.shaderKey? = some key) (build : Builder σ S)
    (surface : σ) :
    (cache.resolve build assets paint surface).2.1.size + (cache.entryAt? key).isSome.toNat =
      cache.size + (cache.resolve build assets paint surface).1.isOk.toNat := by
  have left := entryAt?_resolve build assets paint cache surface
  rw [size_add_isSome key, left key, if_pos isKey]
  · cases (cache.resolve build assets paint surface).1.isOk <;> rfl
  · intro other differs
    rw [left other, if_neg]
    rw [isKey, Option.some_inj]
    exact fun same => differs same.symm

theorem size_endFrame (cache : ShaderCache S) :
    cache.endFrame.2.size + cache.endFrame.1 = cache.size := by
  have fewer : cache.endFrame.2.size ≤ cache.size :=
    Nat.add_le_add (Nat.add_le_add (List.length_filter_le ..) (List.length_filter_le ..))
      (List.length_filter_le ..)
  exact Nat.add_sub_cancel' fewer

/-! ### Hits and misses -/

/-- So many hits, misses and invalidations have been counted. -/
structure Counts (hits misses invalidations : Nat) (cache after : ShaderCache S) : Prop where
  hits : after.hits = cache.hits + hits
  misses : after.misses = cache.misses + misses
  invalidations : after.invalidations = cache.invalidations + invalidations

theorem counts_setTextures (cache : ShaderCache S) (kind : TextureKind)
    (entries : Table String (TextureEntry S)) :
    Counts 0 0 0 cache (cache.setTextures kind entries) := by
  cases kind <;> exact ⟨rfl, rfl, rfl⟩

theorem counts_buildTexture (build : Builder σ S) (kind : TextureKind) (id : String)
    (current : Option Texture) (cache : ShaderCache S) (surface : σ) :
    Counts 0 1 0 cache (cache.buildTexture build kind id current surface).2.1 := by
  unfold buildTexture
  cases current with
  | none => exact ⟨rfl, rfl, rfl⟩
  | some texture =>
      dsimp only
      rcases build (.texture texture) surface with ⟨_ | shader, after⟩
      · exact ⟨rfl, rfl, rfl⟩
      · have inserted := counts_setTextures { cache with misses := cache.misses + 1 } kind
        exact ⟨(inserted _).hits, (inserted _).misses, (inserted _).invalidations⟩

/-- The shader of a texture is held if there is an entry made for the payload that is stored. -/
theorem PaintsWith.isSome_held {kind : TextureKind} {id : String}
    (paints : PaintsWith paint kind id) (cache : ShaderCache S) :
    (cache.held assets paint).isSome = ((cache.textures kind).find? id).any fun entry =>
      decide ((assets.textureOf kind id).map Texture.stamp = some entry.stamp) := by
  rw [paints.held, heldTexture, Option.isSome_map, Option.isSome_filter]

theorem counts_resolveTexture (build : Builder σ S) {kind : TextureKind} {id : String}
    (paints : PaintsWith paint kind id) (cache : ShaderCache S) (surface : σ) :
    Counts (cache.held assets paint).isSome.toNat (!(cache.held assets paint).isSome).toNat 0 cache
      (cache.resolveTexture build assets kind id surface).2.1 := by
  rw [paints.isSome_held]
  unfold resolveTexture
  dsimp only
  cases (cache.textures kind).find? id with
  | none => exact counts_buildTexture build kind id _ cache surface
  | some entry =>
      dsimp only [Option.any_some]
      split
      · rename_i current
        rw [decide_eq_true current]
        have touched := counts_setTextures cache kind
        exact ⟨rfl, (touched _).misses, (touched _).invalidations⟩
      · rename_i stale
        rw [decide_eq_false stale]
        have erased := counts_setTextures cache kind ((cache.textures kind).erase id)
        have built := counts_buildTexture build kind id (assets.textureOf kind id)
          (cache.setTextures kind ((cache.textures kind).erase id)) surface
        exact ⟨built.hits.trans erased.hits, built.misses.trans (congrArg (· + 1) erased.misses),
          built.invalidations.trans erased.invalidations⟩

/-- A resolution counts a hit if the shader is held and a miss else; for a colour it counts
neither. -/
theorem counts_resolve (build : Builder σ S) (assets : AssetStore)
    (isKey : paint.shaderKey? = some key) (cache : ShaderCache S) (surface : σ) :
    Counts (cache.held assets paint).isSome.toNat (!(cache.held assets paint).isSome).toNat 0 cache
      (cache.resolve build assets paint surface).2.1 := by
  cases paint with
  | colour colour => cases isKey
  | gradient gradient =>
      rw [held, Option.isSome_map]
      simp only [resolve, resolveGradient]
      cases cache.gradients.find? gradient.key with
      | some entry => exact ⟨rfl, rfl, rfl⟩
      | none => rcases build (.gradient gradient) surface with ⟨_ | shader, after⟩ <;>
          exact ⟨rfl, rfl, rfl⟩
  | image id => exact counts_resolveTexture build (.inl ⟨rfl, rfl⟩) cache surface
  | stream id => exact counts_resolveTexture build (.inr ⟨rfl, rfl⟩) cache surface

/-- An invalidation that finds an entry drops it and counts it. -/
theorem counts_invalidate (cache : ShaderCache S) (kind : AssetKind) (id : String) :
    Counts 0 0 (cache.invalidate kind id).1.toNat cache (cache.invalidate kind id).2 ∧
      (cache.invalidate kind id).2.size + (cache.invalidate kind id).1.toNat = cache.size := by
  have dropped : ∀ textureKind : TextureKind,
      Counts 0 0 (cache.dropTexture textureKind id).1.toNat cache
          (cache.dropTexture textureKind id).2 ∧
        (cache.dropTexture textureKind id).2.size +
          (cache.dropTexture textureKind id).1.toNat = cache.size := by
    intro textureKind
    unfold dropTexture
    split
    · rename_i present
      have counts := counts_setTextures cache textureKind ((cache.textures textureKind).erase id)
      refine ⟨⟨counts.hits, counts.misses, rfl⟩, ?_⟩
      have erased := cache.entryAt?_eraseTexture textureKind id
      have size := size_add_isSome (.texture textureKind id)
        fun key differs => (erased key).trans (if_neg differs)
      have found : (cache.entryAt? (.texture textureKind id)).isSome = true := by
        rwa [entryAt?, Option.isSome_map]
      rw [erased, if_pos rfl, found] at size
      exact size
    · exact ⟨⟨rfl, rfl, rfl⟩, rfl⟩
  cases kind with
  | image => exact dropped .image
  | stream => exact dropped .stream
  | font => exact ⟨⟨rfl, rfl, rfl⟩, rfl⟩

/-- An entry is held as long as it is not stale. -/
theorem isSome_entryAt? (cache : ShaderCache S) (assets : AssetStore)
    (isKey : paint.shaderKey? = some key) :
    (cache.entryAt? key).isSome.toNat =
      (cache.held assets paint).isSome.toNat + (cache.isStale assets key).toNat := by
  have ofTexture : ∀ kind id, PaintsWith paint kind id →
      (cache.entryAt? (.texture kind id)).isSome.toNat =
        (cache.held assets paint).isSome.toNat +
          (cache.isStale assets (.texture kind id)).toNat := by
    intro kind id paints
    rw [paints.isSome_held, isStale, entryAt?, AssetStore.stampOf]
    cases (cache.textures kind).find? id with
    | none => rfl
    | some entry =>
        generalize (assets.textureOf kind id).map Texture.stamp = stored
        by_cases current : stored = some entry.stamp
        · simp [current]
        · simp [current, Ne.symm current]
  cases paint with
  | colour colour => cases isKey
  | gradient gradient =>
      cases isKey
      rw [held, isStale, entryAt?, AssetStore.stampOf]
      cases cache.gradients.find? gradient.key <;> rfl
  | image id =>
      cases isKey
      exact ofTexture .image id (.inl ⟨rfl, rfl⟩)
  | stream id =>
      cases isKey
      exact ofTexture .stream id (.inr ⟨rfl, rfl⟩)

/-! ### Deliveries -/

theorem isOk_ink (isKey : paint.shaderKey? = some key) (shader? : Option S) :
    (assets.ink paint shader?).isOk = shader?.isSome := by
  cases paint with
  | colour colour => cases isKey
  | _ => cases shader? <;> rfl

/-- What is held is not asked for. -/
theorem surface_of_held (build : Builder σ S) (surface : σ)
    (isHeld : (cache.held assets paint).isSome = true) :
    (cache.resolve build assets paint surface).2.2 = surface := by
  obtain ⟨⟨shader, lastUsed⟩, found⟩ := Option.isSome_iff_exists.1 isHeld
  rw [(supplied_resolve build assets paint cache surface).surface, supply, found]

/-- A resolution that succeeds finds its shader held or is delivered one. -/
theorem delivered_resolve (isKey : paint.shaderKey? = some key) (build : Builder σ S)
    (surface : σ) (requests : Requests S) :
    delivered (cache.resolve (noting build) assets paint (surface, requests)).2.2.2 +
        (cache.held assets paint).isSome.toNat =
      delivered requests +
        (cache.resolve (noting build) assets paint (surface, requests)).1.isOk.toNat := by
  have supplied := supplied_resolve (noting build) assets paint cache (surface, requests)
  rw [supplied.answer, isOk_ink isKey, supplied.surface, supply]
  cases cache.held assets paint with
  | some _ => rfl
  | none =>
      dsimp only [request]
      cases assets.source? paint with
      | none => rfl
      | some source =>
          dsimp only [noting, delivered]
          rw [List.countP_cons]
          cases (build source surface).1 <;> rfl

end ShaderCache

open ShaderCache (Builder noting delivered)

/-! ### The books -/

/-- What may be asked of a shader cache. Each resolution brings its surface and the assets of
its moment. -/
inductive ShaderOrder (σ S : Type) where
  | resolve (build : Builder σ S) (surface : σ) (assets : AssetStore) (paint : Paint)
  | invalidate (kind : AssetKind) (id : String)
  | endFrame
  | clear

/-- A shader cache, all requests made of surfaces, and what its own counters leave out. -/
structure ShaderBooks (S : Type) where
  cache : ShaderCache S
  requests : Requests S := []
  /-- The resolutions of paints other than colours. -/
  asked : Nat := 0
  /-- The resolutions that were answered with an error. -/
  failed : Nat := 0
  /-- The entries that clears have dropped. -/
  cleared : Nat := 0
  /-- The entries that resolutions have dropped as stale. -/
  stale : Nat := 0

namespace ShaderBooks

def serve (books : ShaderBooks S) : ShaderOrder σ S → ShaderBooks S
  | .resolve build surface assets paint =>
      let (answer, cache, _, requests) :=
        books.cache.resolve (noting build) assets paint (surface, books.requests)
      { cache, requests
        asked := books.asked + paint.shaderKey?.isSome.toNat
        failed := books.failed + (!answer.isOk).toNat
        cleared := books.cleared
        stale := books.stale + (paint.shaderKey?.any (books.cache.isStale assets)).toNat }
  | .invalidate kind id => { books with cache := (books.cache.invalidate kind id).2 }
  | .endFrame => { books with cache := books.cache.endFrame.2 }
  | .clear =>
      { books with cache := books.cache.clear, cleared := books.cleared + books.cache.size }

/-- The books after some orders to a new cache. -/
def ofOrders (idleFrames : Nat) (orders : List (ShaderOrder σ S)) : ShaderBooks S :=
  orders.foldl serve { cache := { idleFrames } }

/-- Every resolution is a hit or a miss, every miss fails or is delivered a shader, and every
shader that was delivered is an entry or has gone as one. -/
structure Balanced (books : ShaderBooks S) : Prop where
  resolutions : books.cache.hits + books.cache.misses = books.asked
  misses : books.cache.misses = delivered books.requests + books.failed
  entries : delivered books.requests = books.cache.size + books.cache.evictions +
    books.cache.invalidations + books.cleared + books.stale

variable {books : ShaderBooks S}

/-- A shader that is held is a hit, and else one is asked for. What was under the key is then
replaced by what is delivered, or is gone. -/
theorem Balanced.resolve (balanced : books.Balanced) (build : Builder σ S) (surface : σ)
    (assets : AssetStore) {paint : Paint} {key : ShaderKey}
    (isKey : paint.shaderKey? = some key) :
    (books.serve (.resolve build surface assets paint)).Balanced := by
  have complement : ∀ b : Bool, b.toNat + (!b).toNat = 1 := by decide
  let resolution := books.cache.resolve (noting build) assets paint (surface, books.requests)
  have counts : books.cache.Counts _ _ 0 resolution.2.1 :=
    ShaderCache.counts_resolve (noting build) assets isKey _ _
  have paced : books.cache.Paced resolution.2.1 := ShaderCache.paced_resolve ..
  have size : resolution.2.1.size + _ = books.cache.size + resolution.1.isOk.toNat :=
    ShaderCache.size_resolve isKey _ _
  have supplied : delivered resolution.2.2.2 + _ = _ + resolution.1.isOk.toNat :=
    ShaderCache.delivered_resolve isKey build surface books.requests
  -- What was under the key was held or stale; what is now was held or delivered.
  have entry := books.cache.isSome_entryAt? assets isKey
  have found := complement (books.cache.held assets paint).isSome
  have answered := complement resolution.1.isOk
  obtain ⟨resolutions, misses, entries⟩ := balanced
  refine ⟨?_, ?_, ?_⟩
  · change resolution.2.1.hits + resolution.2.1.misses = books.asked + _
    rw [counts.hits, counts.misses, isKey, Option.isSome_some, Bool.toNat_true]
    omega
  · change resolution.2.1.misses =
      delivered resolution.2.2.2 + (books.failed + (!resolution.1.isOk).toNat)
    rw [counts.misses]
    omega
  · change delivered resolution.2.2.2 = resolution.2.1.size + resolution.2.1.evictions +
      resolution.2.1.invalidations + books.cleared + (books.stale + _)
    rw [paced.evictions, counts.invalidations, isKey, Option.any_some]
    omega

theorem Balanced.serve (balanced : books.Balanced) (order : ShaderOrder σ S) :
    (books.serve order).Balanced := by
  cases order with
  | resolve build surface assets paint =>
      cases isKey : paint.shaderKey? with
      | some key => exact balanced.resolve build surface assets isKey
      | none =>
          cases paint with
          | colour colour => exact balanced
          | _ => cases isKey
  | invalidate kind id =>
      obtain ⟨counts, size⟩ := books.cache.counts_invalidate kind id
      have paced := books.cache.paced_invalidate kind id
      obtain ⟨resolutions, misses, entries⟩ := balanced
      refine ⟨?_, counts.misses.trans misses, ?_⟩
      · simp only [ShaderBooks.serve, counts.hits, counts.misses]
        exact resolutions
      · simp only [ShaderBooks.serve, paced.evictions, counts.invalidations]
        omega
  | endFrame =>
      have size := books.cache.size_endFrame
      have evictions : books.cache.endFrame.2.evictions =
          books.cache.evictions + books.cache.endFrame.1 := rfl
      have invalidations : books.cache.endFrame.2.invalidations = books.cache.invalidations := rfl
      refine ⟨balanced.resolutions, balanced.misses, ?_⟩
      have entries := balanced.entries
      simp only [ShaderBooks.serve, evictions, invalidations]
      omega
  | clear =>
      have size : books.cache.clear.size = 0 := rfl
      have evictions : books.cache.clear.evictions = books.cache.evictions := rfl
      have invalidations : books.cache.clear.invalidations = books.cache.invalidations := rfl
      refine ⟨balanced.resolutions, balanced.misses, ?_⟩
      have entries := balanced.entries
      simp only [ShaderBooks.serve, size, evictions, invalidations]
      omega

theorem Balanced.foldl (balanced : books.Balanced) (orders : List (ShaderOrder σ S)) :
    (orders.foldl ShaderBooks.serve books).Balanced := by
  induction orders generalizing books with
  | nil => exact balanced
  | cons order orders ih => exact ih (balanced.serve order)

theorem balanced_ofOrders (idleFrames : Nat) (orders : List (ShaderOrder σ S)) :
    (ofOrders idleFrames orders).Balanced :=
  Balanced.foldl ⟨rfl, rfl, rfl⟩ orders

/-! ### One order -/

/-- No surface is asked for what is found. -/
theorem requests_of_hit (order : ShaderOrder σ S)
    (hit : books.cache.hits < (books.serve order).cache.hits) :
    (books.serve order).requests = books.requests := by
  cases order with
  | resolve build surface assets paint =>
      cases isKey : paint.shaderKey? with
      | none =>
          cases paint with
          | colour colour => rfl
          | _ => cases isKey
      | some key =>
          have counts := (ShaderCache.counts_resolve (noting build) assets isKey books.cache
            (surface, books.requests)).hits
          cases isHeld : (books.cache.held assets paint).isSome with
          | true => exact congrArg Prod.snd (ShaderCache.surface_of_held (noting build) _ isHeld)
          | false =>
              rw [isHeld] at counts
              exact absurd hit (Nat.not_lt_of_le (Nat.le_of_eq counts))
  | _ => rfl

/-- What could not be resolved has no entry. -/
theorem entryAt?_of_error {build : Builder σ S} {surface : σ} {assets : AssetStore}
    {paint : Paint} {key : ShaderKey} {error : ResolveError}
    (isKey : paint.shaderKey? = some key)
    (failed : (books.cache.resolve build assets paint surface).1 = .error error) :
    (books.serve (.resolve build surface assets paint)).cache.entryAt? key = none := by
  have same := (ShaderCache.agree_resolve build assets paint books.cache surface
    books.requests).1
  have left := ShaderCache.entryAt?_resolve (noting build) assets paint books.cache
    (surface, books.requests) key
  rw [if_pos isKey, same, failed] at left
  exact left

end ShaderBooks

/-- **The counters balance.** Whatever has been asked of a new shader cache, in any order and
with any assets and surfaces: hits and misses together are the resolutions of paints other than
colours; misses less the resolutions that failed are the shaders that surfaces delivered; and
these are the entries there are, in the three tables together, and the entries that were
evicted, invalidated, cleared or found stale. A further resolution that is a hit asks no
surface for a shader, and one that fails leaves no entry under its key. -/
theorem shader_counters_balance (idleFrames : Nat) (orders : List (ShaderOrder σ S)) :
    let books := ShaderBooks.ofOrders idleFrames orders
    let stats := books.cache.stats
    stats.hits + stats.misses = books.asked ∧
    stats.misses = delivered books.requests + books.failed ∧
    delivered books.requests =
      stats.entries + stats.evictions + stats.invalidations + books.cleared + books.stale ∧
    stats.entries = books.cache.gradients.size + books.cache.images.size +
      books.cache.streams.size ∧
    ∀ (build : Builder σ S) surface assets paint,
      let after := books.serve (.resolve build surface assets paint)
      (books.cache.hits < after.cache.hits → after.requests = books.requests) ∧
        ∀ error, (books.cache.resolve build assets paint surface).1 = .error error →
          ∀ key, paint.shaderKey? = some key → after.cache.entryAt? key = none := by
  intro books stats
  have balanced : books.Balanced := ShaderBooks.balanced_ofOrders idleFrames orders
  refine ⟨balanced.resolutions, balanced.misses, balanced.entries, rfl, ?_⟩
  intro build surface assets paint
  exact ⟨ShaderBooks.requests_of_hit _, fun error failed key isKey =>
    ShaderBooks.entryAt?_of_error isKey failed⟩

/-- A shader that was built and found is stale once its picture is replaced unannounced. -/
example :
    let build : Builder Unit Unit := fun _ surface => (some (), surface)
    let decoder : ImageDecoder := fun _ => .error []
    let insertion := AssetEdit.insert "tile" (.image ⟨1, 1, #[.clear]⟩)
    let once := ShaderOrder.resolve build () (.edited decoder [insertion]) (.image "tile")
    let again :=
      ShaderOrder.resolve build () (.edited decoder [insertion, insertion]) (.image "tile")
    let books := ShaderBooks.ofOrders 1 [once, once, again, .clear]
    books.cache.stats = ⟨1, 2, 0, 0, 0⟩ ∧ delivered books.requests = 2 ∧ books.stale = 1 ∧
      books.cleared = 1 := by decide

end ScenePlayer
