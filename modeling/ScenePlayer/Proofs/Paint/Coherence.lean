import ScenePlayer.Paint.ShaderCache
import ScenePlayer.Proofs.Asset.Edits

/-!
Coherence of the shader cache. `Built` says of a source which answers a surface
has given to a request for its shader. A cache is coherent with a store of assets
if every entry holds such an answer: that for its own gradient, or that for the
payload whose stamp it carries, as long as that payload is stored. Coherence
survives whatever is done to the store and to the cache, announced or not, and a
coherent cache answers as the surface itself has (`Records.resolve`).
-/

namespace ScenePlayer

variable {σ S : Type}

/-- What a surface would have to build a shader from for a paint; nothing if the
paint is a colour, or an asset that is not stored. -/
def AssetStore.source? (assets : AssetStore) : Paint → Option ShaderSource
  | .colour _ => none
  | .gradient gradient => some (.gradient gradient)
  | .image id => (assets.image? id).map .texture
  | .stream id => (assets.stream? id).map .texture

namespace ShaderCache

/-- `Built surface source answer` holds of every answer a surface has given. -/
structure Records (build : Builder σ S) (Built : σ → ShaderSource → Option S → Prop) : Prop where
  noted : ∀ source surface, Built (build source surface).2 source (build source surface).1
  kept : ∀ source surface other answer, Built surface other answer →
    Built (build source surface).2 other answer

/-- The entries agree with the store and with what surfaces have built. -/
structure Coherent (Built : ShaderSource → Option S → Prop) (assets : AssetStore)
    (cache : ShaderCache S) : Prop where
  stored : ∀ kind id texture, assets.textureOf kind id = some texture →
    texture.stamp ≤ assets.stamp
  gradient : ∀ gradient entry, cache.gradients.find? gradient.key = some entry →
    Built (.gradient gradient) (some entry.shader)
  stamp : ∀ kind id entry, (cache.textures kind).find? id = some entry →
    entry.stamp ≤ assets.stamp
  texture : ∀ kind id entry, (cache.textures kind).find? id = some entry →
    ∀ texture, assets.textureOf kind id = some texture → texture.stamp = entry.stamp →
      Built (.texture texture) (some entry.shader)

/-- What a right answer to the resolution of a paint is. -/
def Answers (Built : ShaderSource → Option S → Prop) (assets : AssetStore) (paint : Paint) :
    Except ResolveError (Ink S) → Prop
  | .ok (.solid colour) => paint = .colour colour
  | .ok (.shader shader) =>
      ∃ source, assets.source? paint = some source ∧ Built source (some shader)
  | .error .unsupported => ∃ source, assets.source? paint = some source ∧ Built source none
  | .error (.missingAsset kind id) =>
      (paint = .image id ∧ kind = .image ∨ paint = .stream id ∧ kind = .stream) ∧
        assets.source? paint = none

variable {Built : ShaderSource → Option S → Prop} {assets : AssetStore} {cache : ShaderCache S}

/-! ### Fewer entries, more answers -/

/-- A new cache is coherent with a new store. -/
theorem coherent_new (idleFrames : Nat) : ({ idleFrames } : ShaderCache S).Coherent Built {} where
  stored kind id texture found := by cases kind <;> cases found
  gradient := by rintro gradient entry ⟨⟩
  stamp kind id entry found := by cases kind <;> cases found
  texture kind id entry found := by cases kind <;> cases found

theorem Coherent.mono (coherent : cache.Coherent Built assets)
    {More : ShaderSource → Option S → Prop}
    (more : ∀ source answer, Built source answer → More source answer) :
    cache.Coherent More assets where
  stored := coherent.stored
  gradient gradient entry found := more _ _ (coherent.gradient gradient entry found)
  stamp := coherent.stamp
  texture kind id entry found texture stored same :=
    more _ _ (coherent.texture kind id entry found texture stored same)

/-- A cache without further entries is as coherent. -/
theorem Coherent.of_subset (coherent : cache.Coherent Built assets) {fewer : ShaderCache S}
    (gradients : ∀ key entry, fewer.gradients.find? key = some entry →
      cache.gradients.find? key = some entry)
    (textures : ∀ kind id entry, (fewer.textures kind).find? id = some entry →
      (cache.textures kind).find? id = some entry) : fewer.Coherent Built assets where
  stored := coherent.stored
  gradient gradient entry found := coherent.gradient gradient entry (gradients _ entry found)
  stamp kind id entry found := coherent.stamp kind id entry (textures kind id entry found)
  texture kind id entry found := coherent.texture kind id entry (textures kind id entry found)

theorem textures_setTextures (cache : ShaderCache S) (kind other : TextureKind)
    (entries : Table String (TextureEntry S)) :
    (cache.setTextures kind entries).textures other =
      if kind = other then entries else cache.textures other := by
  cases kind <;> cases other <;> rfl

theorem gradients_setTextures (cache : ShaderCache S) (kind : TextureKind)
    (entries : Table String (TextureEntry S)) :
    (cache.setTextures kind entries).gradients = cache.gradients := by
  cases kind <;> rfl

theorem find?_of_filter {κ ν : Type} [DecidableEq κ] {table : Table κ ν} {keep : κ → ν → Bool}
    {key : κ} {value : ν} (found : (table.filter keep).find? key = some value) :
    table.find? key = some value := by
  rw [Table.find?_filter, Option.filter_eq_some_iff] at found
  exact found.1

theorem Coherent.eraseTexture (coherent : cache.Coherent Built assets) (kind : TextureKind)
    (id : String) :
    (cache.setTextures kind ((cache.textures kind).erase id)).Coherent Built assets := by
  refine coherent.of_subset ?_ ?_
  · intro key entry found
    rwa [gradients_setTextures] at found
  · intro other name entry found
    rw [textures_setTextures] at found
    split at found
    · rename_i same
      subst same
      exact find?_of_filter found
    · exact found

theorem Coherent.dropTexture (coherent : cache.Coherent Built assets) (kind : TextureKind)
    (id : String) : (cache.dropTexture kind id).2.Coherent Built assets := by
  unfold ShaderCache.dropTexture
  split
  · refine (coherent.eraseTexture kind id).of_subset (fun _ _ found => found) ?_
    intro other name entry found
    cases kind <;> cases other <;> exact found
  · exact coherent

theorem Coherent.invalidate (coherent : cache.Coherent Built assets) (kind : AssetKind)
    (id : String) : (cache.invalidate kind id).2.Coherent Built assets := by
  cases kind with
  | image => exact coherent.dropTexture .image id
  | stream => exact coherent.dropTexture .stream id
  | font => exact coherent

theorem textures_endFrame (cache : ShaderCache S) (kind : TextureKind) :
    cache.endFrame.2.textures kind =
      (cache.textures kind).filter fun _ entry => cache.isLive entry.lastUsed := by
  cases kind <;> rfl

theorem Coherent.endFrame (coherent : cache.Coherent Built assets) :
    cache.endFrame.2.Coherent Built assets := by
  refine coherent.of_subset (fun key entry found => find?_of_filter found) ?_
  intro kind id entry found
  rw [textures_endFrame] at found
  exact find?_of_filter found

theorem Coherent.clear (coherent : cache.Coherent Built assets) :
    cache.clear.Coherent Built assets := by
  refine coherent.of_subset (by rintro key entry ⟨⟩) ?_
  intro kind id entry found
  cases kind <;> cases found

/-! ### Changes of the store -/

/-- A store that stamps on and keeps no payload under another stamp changes nothing
for the entries built before. -/
theorem Coherent.of_store (coherent : cache.Coherent Built assets) {after : AssetStore}
    (stored : ∀ kind id texture, after.textureOf kind id = some texture →
      texture.stamp ≤ after.stamp)
    (stamp : assets.stamp ≤ after.stamp)
    (kept : ∀ kind id texture, after.textureOf kind id = some texture →
      texture.stamp ≤ assets.stamp → assets.textureOf kind id = some texture) :
    cache.Coherent Built after where
  stored := stored
  gradient := coherent.gradient
  stamp kind id entry found := Nat.le_trans (coherent.stamp kind id entry found) stamp
  texture := by
    intro kind id entry found texture stored same
    have old : texture.stamp ≤ assets.stamp := same ▸ coherent.stamp kind id entry found
    exact coherent.texture kind id entry found texture (kept kind id texture stored old) same

/-- What is stored after an insertion is the new payload or was stored before. -/
theorem textureOf_insert {id name : String} {asset : Asset} {kind : TextureKind}
    {texture : Texture} (stored : (assets.insert id asset).2.textureOf kind name = some texture) :
    texture.stamp = assets.stamp + 1 ∨ assets.textureOf kind name = some texture := by
  have newOrOld : ∀ {table : Table String Texture} {picture : Picture},
      (table.insert id ⟨picture, assets.stamp + 1⟩).find? name = some texture →
        texture.stamp = assets.stamp + 1 ∨ table.find? name = some texture := by
    intro table picture found
    rw [Table.find?_insert] at found
    split at found
    · cases found
      exact .inl rfl
    · exact .inr found
  cases asset <;> cases kind <;> first | exact .inr stored | exact newOrOld stored

theorem Coherent.insertAsset (coherent : cache.Coherent Built assets) (id : String)
    (asset : Asset) : cache.Coherent Built (assets.insert id asset).2 := by
  refine coherent.of_store ?_ ?_ ?_
  · intro kind name texture stored
    rw [AssetStore.stamp_insert]
    rcases textureOf_insert stored with new | old
    · exact Nat.le_of_eq new
    · exact Nat.le_succ_of_le (coherent.stored kind name texture old)
  · rw [AssetStore.stamp_insert]
    exact Nat.le_succ _
  · intro kind name texture stored earlier
    rcases textureOf_insert stored with new | old
    · omega
    · exact old

theorem textureOf_delete {kind : AssetKind} {id name : String} {textureKind : TextureKind}
    {texture : Texture}
    (stored : (assets.delete kind id).2.textureOf textureKind name = some texture) :
    assets.textureOf textureKind name = some texture := by
  cases kind <;> cases textureKind <;> first | exact stored | exact find?_of_filter stored

theorem Coherent.deleteAsset (coherent : cache.Coherent Built assets) (kind : AssetKind)
    (id : String) : cache.Coherent Built (assets.delete kind id).2 := by
  have stamp := AssetStore.stamp_delete kind id assets
  refine coherent.of_store ?_ (Nat.le_of_eq stamp.symm) fun _ _ _ stored _ =>
    textureOf_delete stored
  intro textureKind name texture stored
  rw [stamp]
  exact coherent.stored textureKind name texture (textureOf_delete stored)

theorem Coherent.clearAssets (coherent : cache.Coherent Built assets) :
    cache.Coherent Built assets.clear := by
  have nothing : ∀ kind id texture, assets.clear.textureOf kind id ≠ some texture := by
    intro kind id texture stored
    cases kind <;> cases stored
  exact coherent.of_store (fun kind id texture stored => absurd stored (nothing kind id texture))
    (Nat.le_refl _) fun kind id texture stored => absurd stored (nothing kind id texture)

theorem Coherent.editAssets (decoder : ImageDecoder) (coherent : cache.Coherent Built assets)
    (edit : AssetEdit) : cache.Coherent Built (assets.edit decoder edit) := by
  cases stores : edit.payload? decoder with
  | some payload =>
      rw [AssetStore.edit_of_payload stores]
      exact coherent.insertAsset _ _
  | none =>
      rcases AssetStore.edit_of_refused stores assets with ⟨same, -⟩ | ⟨kind, id, rfl⟩ | rfl
      · rwa [same]
      · exact coherent.deleteAsset kind id
      · exact coherent.clearAssets

/-! ### New entries -/

theorem Coherent.insertGradient (coherent : cache.Coherent Built assets) (gradient : Gradient)
    (entry : GradientEntry S) (built : Built (.gradient gradient) (some entry.shader))
    {after : ShaderCache S}
    (gradients : after.gradients = cache.gradients.insert gradient.key entry)
    (textures : after.textures = cache.textures) : after.Coherent Built assets where
  stored := coherent.stored
  gradient := by
    intro other found isFound
    rw [gradients, Table.find?_insert] at isFound
    split at isFound
    · rename_i same
      cases isFound
      rwa [← Gradient.key_injective same]
    · exact coherent.gradient other found isFound
  stamp := by
    rw [textures]
    exact coherent.stamp
  texture := by
    rw [textures]
    exact coherent.texture

theorem Coherent.insertTexture (coherent : cache.Coherent Built assets) (kind : TextureKind)
    (id : String) (entry : TextureEntry S) (stamp : entry.stamp ≤ assets.stamp)
    (built : ∀ texture, assets.textureOf kind id = some texture → texture.stamp = entry.stamp →
      Built (.texture texture) (some entry.shader)) :
    (cache.setTextures kind ((cache.textures kind).insert id entry)).Coherent Built assets := by
  have newOrOld : ∀ other name found,
      ((cache.setTextures kind ((cache.textures kind).insert id entry)).textures other).find? name =
        some found →
      (kind = other ∧ id = name ∧ entry = found) ∨
        (cache.textures other).find? name = some found := by
    intro other name found isFound
    rw [textures_setTextures] at isFound
    split at isFound
    · rename_i sameKind
      subst sameKind
      rw [Table.find?_insert] at isFound
      split at isFound
      · rename_i sameId
        exact .inl ⟨rfl, sameId, Option.some.inj isFound⟩
      · exact .inr isFound
    · exact .inr isFound
  refine ⟨coherent.stored, ?_, ?_, ?_⟩
  · rw [gradients_setTextures]
    exact coherent.gradient
  · intro other name found isFound
    rcases newOrOld other name found isFound with ⟨rfl, rfl, rfl⟩ | old
    · exact stamp
    · exact coherent.stamp other name found old
  · intro other name found isFound
    rcases newOrOld other name found isFound with ⟨rfl, rfl, rfl⟩ | old
    · exact built
    · exact coherent.texture other name found old

/-! ### Resolution -/

section Resolution

variable {build : Builder σ S} {Built : σ → ShaderSource → Option S → Prop} {surface : σ}

/-- A resolution answers rightly and leaves a coherent cache. -/
def Resolves (Built : σ → ShaderSource → Option S → Prop) (assets : AssetStore) (paint : Paint)
    (resolution : Resolution σ S) : Prop :=
  resolution.2.1.Coherent (Built resolution.2.2) assets ∧
    Answers (Built resolution.2.2) assets paint resolution.1

theorem Coherent.resolveGradient (coherent : cache.Coherent (Built surface) assets)
    (records : Records build Built) (gradient : Gradient) :
    Resolves Built assets (.gradient gradient)
      (cache.resolveGradient build gradient surface) := by
  unfold ShaderCache.resolveGradient
  cases found : cache.gradients.find? gradient.key with
  | some entry =>
      have built := coherent.gradient gradient entry found
      exact ⟨coherent.insertGradient gradient { entry with lastUsed := cache.frame } built rfl rfl,
        _, rfl, built⟩
  | none =>
      have noted := records.noted (.gradient gradient) surface
      have kept := coherent.mono (records.kept (.gradient gradient) surface)
      rcases built : build (.gradient gradient) surface with ⟨_ | shader, after⟩
      · rw [built] at noted kept
        exact ⟨kept.of_subset (fun _ _ old => old) (fun _ _ _ old => old), _, rfl, noted⟩
      · rw [built] at noted kept
        exact ⟨kept.insertGradient gradient ⟨shader, cache.frame⟩ noted rfl rfl, _, rfl, noted⟩

/-- A paint by the texture of a kind under an identifier. -/
def PaintsWith (paint : Paint) (kind : TextureKind) (id : String) : Prop :=
  paint = .image id ∧ kind = .image ∨ paint = .stream id ∧ kind = .stream

theorem PaintsWith.source? {paint : Paint} {kind : TextureKind} {id : String}
    (paints : PaintsWith paint kind id) (assets : AssetStore) :
    assets.source? paint = (assets.textureOf kind id).map .texture := by
  rcases paints with ⟨rfl, rfl⟩ | ⟨rfl, rfl⟩ <;> rfl

theorem Coherent.buildTexture (coherent : cache.Coherent (Built surface) assets)
    (records : Records build Built) {paint : Paint} {kind : TextureKind} {id : String}
    (paints : PaintsWith paint kind id) :
    Resolves Built assets paint
      (cache.buildTexture build kind id (assets.textureOf kind id) surface) := by
  have source := paints.source? assets
  let missed := { cache with misses := cache.misses + 1 }
  have coherent : missed.Coherent (Built surface) assets :=
    coherent.of_subset (fun _ _ old => old) fun kind _ _ old => by cases kind <;> exact old
  unfold ShaderCache.buildTexture
  cases current : assets.textureOf kind id with
  | none =>
      rw [current] at source
      refine ⟨coherent, ?_, source⟩
      rcases paints with ⟨rfl, rfl⟩ | ⟨rfl, rfl⟩
      · exact .inl ⟨rfl, rfl⟩
      · exact .inr ⟨rfl, rfl⟩
  | some texture =>
      rw [current] at source
      have noted := records.noted (.texture texture) surface
      have kept := coherent.mono (records.kept (.texture texture) surface)
      rcases built : build (.texture texture) surface with ⟨_ | shader, after⟩
      · rw [built] at noted kept
        simp only [built]
        exact ⟨kept, _, source, noted⟩
      · rw [built] at noted kept
        simp only [built]
        refine ⟨?_, _, source, noted⟩
        refine kept.insertTexture kind id ⟨shader, texture.stamp, missed.frame⟩
          (coherent.stored kind id texture current) ?_
        intro stored isStored _
        rw [current] at isStored
        cases isStored
        exact noted

theorem Coherent.resolveTexture (coherent : cache.Coherent (Built surface) assets)
    (records : Records build Built) {paint : Paint} {kind : TextureKind} {id : String}
    (paints : PaintsWith paint kind id) :
    Resolves Built assets paint (cache.resolveTexture build assets kind id surface) := by
  unfold ShaderCache.resolveTexture
  cases found : (cache.textures kind).find? id with
  | none => exact coherent.buildTexture records paints
  | some entry =>
      dsimp only
      split
      · rename_i current
        obtain ⟨texture, stored, stamp⟩ := Option.map_eq_some_iff.1 current
        have built := coherent.texture kind id entry found texture stored stamp
        have source := paints.source? assets
        rw [stored] at source
        have touched := coherent.insertTexture kind id { entry with lastUsed := cache.frame }
          (coherent.stamp kind id entry found) (coherent.texture kind id entry found)
        refine ⟨touched.of_subset (fun _ _ old => old) ?_, _, source, built⟩
        intro other name entry old
        cases other <;> exact old
      · exact (coherent.eraseTexture kind id).buildTexture records paints

/-- A coherent cache answers as the surface has, and stays coherent. -/
theorem Records.resolve (records : Records build Built) (surface : σ)
    (coherent : cache.Coherent (Built surface) assets) (paint : Paint) :
    Resolves Built assets paint (cache.resolve build assets paint surface) := by
  cases paint with
  | colour colour => exact ⟨coherent, rfl⟩
  | gradient gradient => exact coherent.resolveGradient records gradient
  | image id => exact coherent.resolveTexture records (.inl ⟨rfl, rfl⟩)
  | stream id => exact coherent.resolveTexture records (.inr ⟨rfl, rfl⟩)

/-- At most one shader is asked for, and that is the one of the paint. -/
theorem resolve_surface (build : Builder σ S) (assets : AssetStore) (paint : Paint)
    (cache : ShaderCache S) (surface : σ) :
    (cache.resolve build assets paint surface).2.2 = surface ∨
      ∃ source, assets.source? paint = some source ∧
        (cache.resolve build assets paint surface).2.2 = (build source surface).2 := by
  have ofTexture : ∀ kind id, PaintsWith paint kind id →
      (cache.resolveTexture build assets kind id surface).2.2 = surface ∨
        ∃ source, assets.source? paint = some source ∧
          (cache.resolveTexture build assets kind id surface).2.2 = (build source surface).2 := by
    intro kind id paints
    have built : ∀ cache : ShaderCache S,
        (cache.buildTexture build kind id (assets.textureOf kind id) surface).2.2 = surface ∨
          ∃ source, assets.source? paint = some source ∧
            (cache.buildTexture build kind id (assets.textureOf kind id) surface).2.2 =
              (build source surface).2 := by
      intro cache
      unfold ShaderCache.buildTexture
      rw [paints.source?]
      cases assets.textureOf kind id with
      | none => exact .inl rfl
      | some texture =>
          refine .inr ⟨_, rfl, ?_⟩
          dsimp only
          rcases build (.texture texture) surface with ⟨_ | shader, after⟩ <;> rfl
    unfold ShaderCache.resolveTexture
    dsimp only
    split
    · exact built cache
    · split
      · exact .inl rfl
      · exact built _
  cases paint with
  | colour colour => exact .inl rfl
  | gradient gradient =>
      simp only [ShaderCache.resolve, ShaderCache.resolveGradient]
      split
      · exact .inl rfl
      · refine .inr ⟨_, rfl, ?_⟩
        rcases build (.gradient gradient) surface with ⟨_ | shader, after⟩ <;> rfl
  | image id => exact ofTexture .image id (.inl ⟨rfl, rfl⟩)
  | stream id => exact ofTexture .stream id (.inr ⟨rfl, rfl⟩)

/-- A paint by an asset that is not stored is answered with that asset, and only
such a paint is. -/
theorem Answers.missing_iff {Built : ShaderSource → Option S → Prop} {paint : Paint}
    {answer : Except ResolveError (Ink S)} (answers : Answers Built assets paint answer)
    {kind : TextureKind} {id : String} (paints : PaintsWith paint kind id) :
    answer = .error (.missingAsset kind.asset id) ↔ assets.textureOf kind id = none := by
  have source := paints.source? assets
  constructor
  · rintro rfl
    rw [answers.2] at source
    exact Option.map_eq_none_iff.1 source.symm
  · intro absent
    rw [absent, Option.map_none] at source
    match answer, answers with
    | .ok (.solid colour), isColour =>
        rcases paints with ⟨rfl, rfl⟩ | ⟨rfl, rfl⟩ <;> cases isColour
    | .ok (.shader shader), ⟨_, present, _⟩ =>
        rw [source] at present
        cases present
    | .error .unsupported, ⟨_, present, _⟩ =>
        rw [source] at present
        cases present
    | .error (.missingAsset _ _), ⟨named, _⟩ =>
        rcases paints with ⟨rfl, rfl⟩ | ⟨rfl, rfl⟩ <;>
          rcases named with ⟨⟨⟩, rfl⟩ | ⟨⟨⟩, rfl⟩ <;> rfl

/-- A source that a paint denotes is asked for, and its shader is the answer. -/
theorem Answers.of_source {Built : ShaderSource → Option S → Prop} {paint : Paint}
    {answer : Except ResolveError (Ink S)} (answers : Answers Built assets paint answer)
    {source : ShaderSource} (found : assets.source? paint = some source) :
    ∃ built, Built source built ∧
      answer = built.elim (.error .unsupported) fun shader => .ok (.shader shader) := by
  match answer, answers with
  | .ok (.solid colour), isColour =>
      rw [isColour] at found
      cases found
  | .ok (.shader shader), ⟨_, same, built⟩ =>
      rw [found] at same
      cases same
      exact ⟨some shader, built, rfl⟩
  | .error .unsupported, ⟨_, same, built⟩ =>
      rw [found] at same
      cases same
      exact ⟨none, built, rfl⟩
  | .error (.missingAsset _ _), ⟨_, absent⟩ =>
      rw [found] at absent
      cases absent

theorem Answers.of_colour {Built : ShaderSource → Option S → Prop} {colour : Colour}
    {answer : Except ResolveError (Ink S)}
    (answers : Answers Built assets (.colour colour) answer) : answer = .ok (.solid colour) := by
  match answer, answers with
  | .ok (.solid _), isColour =>
      cases isColour
      rfl
  | .ok (.shader _), ⟨_, found, _⟩ => cases found
  | .error .unsupported, ⟨_, found, _⟩ => cases found
  | .error (.missingAsset _ _), ⟨.inl ⟨named, _⟩, _⟩ => cases named
  | .error (.missingAsset _ _), ⟨.inr ⟨named, _⟩, _⟩ => cases named

/-- Where every source has one answer at most, every paint has. -/
theorem Answers.unique {Built : ShaderSource → Option S → Prop}
    (unique : ∀ source first second, Built source first → Built source second → first = second)
    {paint : Paint} {answer other : Except ResolveError (Ink S)}
    (left : Answers Built assets paint answer) (right : Answers Built assets paint other) :
    answer = other := by
  have ofSource : ∀ source, assets.source? paint = some source → answer = other := by
    intro source found
    obtain ⟨first, builtFirst, rfl⟩ := left.of_source found
    obtain ⟨second, builtSecond, rfl⟩ := right.of_source found
    rw [unique source first second builtFirst builtSecond]
  have ofTexture : ∀ kind id, PaintsWith paint kind id → answer = other := by
    intro kind id paints
    cases stored : assets.textureOf kind id with
    | none => rw [(left.missing_iff paints).2 stored, (right.missing_iff paints).2 stored]
    | some texture =>
        refine ofSource (.texture texture) ?_
        rw [paints.source?, stored]
        rfl
  cases paint with
  | colour colour => rw [left.of_colour, right.of_colour]
  | gradient gradient => exact ofSource _ rfl
  | image id => exact ofTexture .image id (.inl ⟨rfl, rfl⟩)
  | stream id => exact ofTexture .stream id (.inr ⟨rfl, rfl⟩)

end Resolution

end ShaderCache

end ScenePlayer
