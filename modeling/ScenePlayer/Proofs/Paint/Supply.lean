import ScenePlayer.Proofs.Paint.Coherence

/-!
Which shaders a cache has at hand. A cache holds at most one shader for a paint,
together with the frame of its last use (`ShaderCache.held`); the shader of a
texture counts only as long as the payload from which it was built is stored. A
resolution takes the shader that is held or else has one built, and it changes what
is held for its own paint only (`ShaderCache.supplied_resolve`).

On surfaces that accept or decline a source by the source alone, each paint that a
frame has met is settled (`ShaderCache.Settled`): its shader was used in this frame,
or there is none to be had. What is settled stays so until the frame ends
(`ShaderCache.keeps_resolve`), and is found again by the next one
(`ShaderCache.covers_endFrame`).
-/

namespace ScenePlayer

variable {σ S : Type}

namespace AssetStore

/-- The answer to a resolution that comes by this shader, or by none. -/
def ink (assets : AssetStore) : Paint → Option S → Except ResolveError (Ink S)
  | .colour colour, _ => .ok (.solid colour)
  | _, some shader => .ok (.shader shader)
  | .gradient _, none => .error .unsupported
  | .image id, none =>
      .error (if (assets.image? id).isSome then .unsupported else .missingAsset .image id)
  | .stream id, none =>
      .error (if (assets.stream? id).isSome then .unsupported else .missingAsset .stream id)

end AssetStore

namespace ShaderCache

/-- The shader held for a texture, and the frame of its last use. -/
def heldTexture (assets : AssetStore) (kind : TextureKind) (id : String)
    (cache : ShaderCache S) : Option (S × Nat) :=
  (((cache.textures kind).find? id).filter fun entry =>
    decide ((assets.textureOf kind id).map Texture.stamp = some entry.stamp)).map
      fun entry => (entry.shader, entry.lastUsed)

/-- The shader held for a paint, and the frame of its last use. -/
def held (assets : AssetStore) (cache : ShaderCache S) : Paint → Option (S × Nat)
  | .colour _ => none
  | .gradient gradient =>
      (cache.gradients.find? gradient.key).map fun entry => (entry.shader, entry.lastUsed)
  | .image id => cache.heldTexture assets .image id
  | .stream id => cache.heldTexture assets .stream id

/-- Ask a surface for the shader of a paint, if there is a source to build it from. -/
def request (build : Builder σ S) (assets : AssetStore) (paint : Paint) (surface : σ) :
    Option S × σ :=
  match assets.source? paint with
  | none => (none, surface)
  | some source => build source surface

/-- The shader held for a paint, or else the one that the surface builds. -/
def supply (build : Builder σ S) (assets : AssetStore) (paint : Paint) (cache : ShaderCache S)
    (surface : σ) : Option S × σ :=
  match cache.held assets paint with
  | some (shader, _) => (some shader, surface)
  | none => request build assets paint surface

/-- A resolution answers by the shader supplied, and from then on holds it for its paint
as used in this frame. -/
structure Supplied (assets : AssetStore) (paint : Paint) (cache : ShaderCache S)
    (supply : Option S × σ) (resolution : Resolution σ S) : Prop where
  answer : resolution.1 = assets.ink paint supply.1
  surface : resolution.2.2 = supply.2
  frame : resolution.2.1.frame = cache.frame
  here : resolution.2.1.held assets paint = supply.1.map fun shader => (shader, cache.frame)
  elsewhere : ∀ other, other ≠ paint → resolution.2.1.held assets other = cache.held assets other

variable {build : Builder σ S} {assets : AssetStore} {cache : ShaderCache S} {paint : Paint}

theorem PaintsWith.held {kind : TextureKind} {id : String} (paints : PaintsWith paint kind id)
    (cache : ShaderCache S) : cache.held assets paint = cache.heldTexture assets kind id := by
  rcases paints with ⟨rfl, rfl⟩ | ⟨rfl, rfl⟩ <;> rfl

theorem PaintsWith.ink {kind : TextureKind} {id : String} (paints : PaintsWith paint kind id)
    (shader : S) : assets.ink paint (some shader) = .ok (.shader shader) := by
  rcases paints with ⟨rfl, rfl⟩ | ⟨rfl, rfl⟩ <;> rfl

theorem PaintsWith.ink_none {kind : TextureKind} {id : String}
    (paints : PaintsWith paint kind id) :
    assets.ink paint (none : Option S) =
      .error (if (assets.textureOf kind id).isSome then .unsupported
        else .missingAsset kind.asset id) := by
  rcases paints with ⟨rfl, rfl⟩ | ⟨rfl, rfl⟩ <;> rfl

/-- Entries of one texture matter to the paint by this texture only. -/
theorem PaintsWith.held_of_ne {kind : TextureKind} {id : String}
    (paints : PaintsWith paint kind id) {after : ShaderCache S}
    (gradients : after.gradients = cache.gradients)
    (textures : ∀ other name, ¬ (other = kind ∧ name = id) →
      (after.textures other).find? name = (cache.textures other).find? name)
    {other : Paint} (differs : other ≠ paint) :
    after.held assets other = cache.held assets other := by
  have sameTexture : ∀ {otherKind name}, PaintsWith other otherKind name →
      after.held assets other = cache.held assets other := by
    intro otherKind name otherPaints
    rw [otherPaints.held, otherPaints.held, heldTexture, heldTexture, textures]
    rintro ⟨rfl, rfl⟩
    rcases paints with ⟨rfl, rfl⟩ | ⟨rfl, rfl⟩ <;>
      rcases otherPaints with ⟨rfl, ⟨⟩⟩ | ⟨rfl, ⟨⟩⟩ <;> exact differs rfl
  cases other with
  | colour colour => rfl
  | gradient gradient => simp only [ShaderCache.held, gradients]
  | image id => exact sameTexture (.inl ⟨rfl, rfl⟩)
  | stream id => exact sameTexture (.inr ⟨rfl, rfl⟩)

/-! ### Resolution -/

theorem held_insertGradient (gradient : Gradient) (entry : GradientEntry S)
    {after : ShaderCache S}
    (gradients : after.gradients = cache.gradients.insert gradient.key entry)
    (textures : after.textures = cache.textures) (other : Paint) :
    after.held assets other =
      if other = .gradient gradient then some (entry.shader, entry.lastUsed)
      else cache.held assets other := by
  cases other with
  | colour colour => rfl
  | gradient different =>
      simp only [held, gradients, Table.find?_insert, Paint.gradient.injEq]
      by_cases same : gradient = different
      · rw [if_pos (congrArg Gradient.key same), if_pos same.symm]
        rfl
      · rw [if_neg fun keys => same (Gradient.key_injective keys), if_neg (Ne.symm same)]
  | image id => simp only [held, heldTexture, textures, reduceCtorEq, if_false]
  | stream id => simp only [held, heldTexture, textures, reduceCtorEq, if_false]

theorem supplied_insertGradient {gradient : Gradient} {shader : S} {after : ShaderCache S}
    (surface : σ)
    (gradients : after.gradients = cache.gradients.insert gradient.key ⟨shader, cache.frame⟩)
    (textures : after.textures = cache.textures) (frame : after.frame = cache.frame) :
    Supplied assets (.gradient gradient) cache (some shader, surface)
      (.ok (.shader shader), after, surface) where
  answer := rfl
  surface := rfl
  frame := frame
  here := (held_insertGradient gradient _ gradients textures _).trans (if_pos rfl)
  elsewhere other differs :=
    (held_insertGradient gradient _ gradients textures other).trans (if_neg differs)

theorem supplied_resolveGradient (build : Builder σ S) (assets : AssetStore)
    (gradient : Gradient) (cache : ShaderCache S) (surface : σ) :
    Supplied assets (.gradient gradient) cache
      (cache.supply build assets (.gradient gradient) surface)
      (cache.resolveGradient build gradient surface) := by
  have source : assets.source? (.gradient gradient) = some (.gradient gradient) := rfl
  cases found : cache.gradients.find? gradient.key with
  | some entry =>
      have isHeld : cache.held assets (.gradient gradient) =
          some (entry.shader, entry.lastUsed) := by
        rw [held, found]
        rfl
      simp only [supply, isHeld, resolveGradient, found]
      exact supplied_insertGradient surface rfl rfl rfl
  | none =>
      have vacant : cache.held assets (.gradient gradient) = none := by
        rw [held, found]
        rfl
      simp only [supply, vacant, request, source, resolveGradient, found]
      rcases build (.gradient gradient) surface with ⟨_ | shader, after⟩
      · exact ⟨rfl, rfl, rfl, vacant, fun _ _ => rfl⟩
      · exact supplied_insertGradient after rfl rfl rfl

/-- An entry built from the payload that is stored is held for the paint by it. -/
theorem PaintsWith.held_insert {kind : TextureKind} {id : String}
    (paints : PaintsWith paint kind id) {entry : TextureEntry S}
    (current : (assets.textureOf kind id).map Texture.stamp = some entry.stamp) :
    (cache.setTextures kind ((cache.textures kind).insert id entry)).held assets paint =
      some (entry.shader, entry.lastUsed) := by
  rw [paints.held, heldTexture, textures_setTextures, if_pos rfl, Table.find?_insert, if_pos rfl,
    current, Option.filter_some, if_pos (decide_eq_true rfl), Option.map_some]

theorem PaintsWith.held_setTextures_of_ne {kind : TextureKind} {id : String}
    (paints : PaintsWith paint kind id) {entries : Table String (TextureEntry S)}
    (others : ∀ name, id ≠ name → entries.find? name = (cache.textures kind).find? name)
    {other : Paint} (differs : other ≠ paint) :
    (cache.setTextures kind entries).held assets other = cache.held assets other := by
  refine paints.held_of_ne (gradients_setTextures cache kind entries) ?_ differs
  intro otherKind name elsewhere
  rw [textures_setTextures]
  split
  · rename_i same
    subst same
    exact others name fun same => elsewhere ⟨rfl, same.symm⟩
  · rfl

/-- What is built for a texture is held for the paint by it. -/
theorem supplied_buildTexture (build : Builder σ S) {kind : TextureKind} {id : String}
    (paints : PaintsWith paint kind id) (vacant : cache.held assets paint = none) (surface : σ) :
    Supplied assets paint cache (request build assets paint surface)
      (cache.buildTexture build kind id (assets.textureOf kind id) surface) := by
  unfold buildTexture request
  rw [paints.source?]
  cases current : assets.textureOf kind id with
  | none =>
      refine ⟨?_, rfl, rfl, vacant, fun _ _ => rfl⟩
      rw [Option.map_none, paints.ink_none, current]
      rfl
  | some texture =>
      dsimp only [Option.map_some]
      rcases build (.texture texture) surface with ⟨_ | shader, after⟩
      · refine ⟨?_, rfl, rfl, vacant, fun _ _ => rfl⟩
        rw [paints.ink_none, current]
        rfl
      · let missed := { cache with misses := cache.misses + 1 }
        refine ⟨(paints.ink shader).symm, rfl, ?_, ?_, fun other differs => ?_⟩
        · cases kind <;> rfl
        · exact paints.held_insert (congrArg (Option.map Texture.stamp) current)
        · exact paints.held_setTextures_of_ne
            (fun name other => by rw [Table.find?_insert, if_neg other]) differs

/-- A cache that holds the same is supplied alike. -/
theorem Supplied.of_held {other : ShaderCache S} {supply : Option S × σ}
    {resolution : Resolution σ S} (supplied : Supplied assets paint other supply resolution)
    (frame : other.frame = cache.frame)
    (held : ∀ paint, other.held assets paint = cache.held assets paint) :
    Supplied assets paint cache supply resolution where
  answer := supplied.answer
  surface := supplied.surface
  frame := supplied.frame.trans frame
  here := by rw [supplied.here, frame]
  elsewhere other differs := (supplied.elsewhere other differs).trans (held other)

theorem supplied_resolveTexture (build : Builder σ S) {kind : TextureKind} {id : String}
    (paints : PaintsWith paint kind id) (cache : ShaderCache S) (surface : σ) :
    Supplied assets paint cache (cache.supply build assets paint surface)
      (cache.resolveTexture build assets kind id surface) := by
  unfold resolveTexture
  dsimp only
  cases found : (cache.textures kind).find? id with
  | none =>
      have vacant : cache.held assets paint = none := by
        rw [paints.held, heldTexture, found]
        rfl
      simp only [supply, vacant]
      exact supplied_buildTexture build paints vacant surface
  | some entry =>
      dsimp only
      split
      · rename_i current
        have isHeld : cache.held assets paint = some (entry.shader, entry.lastUsed) := by
          rw [paints.held, heldTexture, found, Option.filter_some,
            if_pos (decide_eq_true current), Option.map_some]
        simp only [supply, isHeld]
        refine ⟨(paints.ink _).symm, rfl, ?_, ?_, fun other differs => ?_⟩
        · cases kind <;> rfl
        · exact paints.held_insert current
        · exact paints.held_setTextures_of_ne
            (fun name other => by rw [Table.find?_insert, if_neg other]) differs
      · rename_i stale
        -- A stale entry is not held, so dropping it drops nothing that is.
        have vacant : cache.held assets paint = none := by
          rw [paints.held, heldTexture, found, Option.filter_some,
            if_neg (by simpa using stale), Option.map_none]
        let erased := cache.setTextures kind ((cache.textures kind).erase id)
        have still : erased.held assets paint = none := by
          rw [paints.held, heldTexture, textures_setTextures, if_pos rfl, Table.find?_erase,
            if_pos rfl]
          rfl
        have same : ∀ other, erased.held assets other = cache.held assets other := by
          intro other
          by_cases here : other = paint
          · rw [here, still, vacant]
          · exact paints.held_setTextures_of_ne
              (fun name other => by rw [Table.find?_erase, if_neg other]) here
        have frame : erased.frame = cache.frame := by cases kind <;> rfl
        simp only [supply, vacant]
        exact (supplied_buildTexture build paints still surface).of_held frame same

/-- **A resolution supplies and remembers.** It answers by the shader that is held for
the paint, or else by the one that the surface builds, which is then held. -/
theorem supplied_resolve (build : Builder σ S) (assets : AssetStore) (paint : Paint)
    (cache : ShaderCache S) (surface : σ) :
    Supplied assets paint cache (cache.supply build assets paint surface)
      (cache.resolve build assets paint surface) := by
  cases paint with
  | colour colour => exact ⟨rfl, rfl, rfl, rfl, fun _ _ => rfl⟩
  | gradient gradient => exact supplied_resolveGradient build assets gradient cache surface
  | image id => exact supplied_resolveTexture build (.inl ⟨rfl, rfl⟩) cache surface
  | stream id => exact supplied_resolveTexture build (.inr ⟨rfl, rfl⟩) cache surface

/-- The end of a frame drops what has been idle for too long. -/
theorem held_endFrame (assets : AssetStore) (cache : ShaderCache S) (paint : Paint) :
    cache.endFrame.2.held assets paint =
      (cache.held assets paint).filter fun use => cache.isLive use.2 := by
  have ofTexture : ∀ kind id, cache.endFrame.2.heldTexture assets kind id =
      (cache.heldTexture assets kind id).filter fun use => cache.isLive use.2 := by
    intro kind id
    rw [heldTexture, heldTexture, textures_endFrame, Table.find?_filter]
    cases (cache.textures kind).find? id with
    | none => rfl
    | some entry =>
        simp only [Option.filter_some]
        split <;> split <;> simp_all [Option.filter]
  cases paint with
  | colour colour => rfl
  | gradient gradient =>
      have kept : cache.endFrame.2.gradients.find? gradient.key =
          (cache.gradients.find? gradient.key).filter fun entry => cache.isLive entry.lastUsed :=
        Table.find?_filter _ _ _
      rw [held, held, kept]
      cases cache.gradients.find? gradient.key with
      | none => rfl
      | some entry =>
          simp only [Option.filter_some, Option.map_some]
          split <;> rfl
  | image id => exact ofTexture .image id
  | stream id => exact ofTexture .stream id

/-! ### Settled paints -/

/-- What is settled about a paint during a frame: its shader has been used in the frame,
or none is held and `accepts` tells that none will be built. -/
inductive Settled (accepts : ShaderSource → Bool) (assets : AssetStore) (cache : ShaderCache S)
    (paint : Paint) : Option S → Prop where
  | used {shader : S} (isHeld : cache.held assets paint = some (shader, cache.frame)) :
      Settled accepts assets cache paint (some shader)
  | declined (refused : ∀ source, assets.source? paint = some source → accepts source = false)
      (vacant : cache.held assets paint = none) : Settled accepts assets cache paint none

/-- What is settled in one cache is settled alike in the other. -/
structure Keeps (accepts : ShaderSource → Bool) (assets : AssetStore)
    (cache after : ShaderCache S) : Prop where
  frame : after.frame = cache.frame
  settled : ∀ paint shader?, Settled accepts assets cache paint shader? →
    Settled accepts assets after paint shader?

/-- What is settled in one cache is found in the other. -/
def Covers (accepts : ShaderSource → Bool) (assets : AssetStore)
    (cache other : ShaderCache S) : Prop :=
  ∀ paint shader?, Settled accepts assets cache paint shader? →
    (other.held assets paint).map Prod.fst = shader?

variable {accepts : ShaderSource → Bool}

theorem Keeps.refl (cache : ShaderCache S) : Keeps accepts assets cache cache :=
  ⟨rfl, fun _ _ settled => settled⟩

theorem Keeps.trans {first second third : ShaderCache S}
    (left : Keeps accepts assets first second) (right : Keeps accepts assets second third) :
    Keeps accepts assets first third :=
  ⟨right.frame.trans left.frame, fun paint shader? settled =>
    right.settled paint shader? (left.settled paint shader? settled)⟩

/-- The next cache starts with what is settled, if its frame failed. -/
theorem covers_self (cache : ShaderCache S) : Covers accepts assets cache cache := by
  rintro paint shader? (isHeld | ⟨refused, vacant⟩)
  · rw [isHeld]
    rfl
  · rw [vacant]
    rfl

/-- Whatever a frame has used survives its end. -/
theorem covers_endFrame (cache : ShaderCache S) :
    Covers accepts assets cache cache.endFrame.2 := by
  have live : cache.isLive cache.frame = true := by simp [isLive]
  rintro paint shader? (isHeld | ⟨refused, vacant⟩)
  · rw [held_endFrame, isHeld, Option.filter_some, if_pos live]
    rfl
  · rw [held_endFrame, vacant]
    rfl

section Answers

variable {surface : σ} (answers : ∀ source, (build source surface).1.isSome = accepts source)

include answers

/-- What is refused is declined when it is asked for. -/
theorem request_of_refused
    (refused : ∀ source, assets.source? paint = some source → accepts source = false) :
    (request build assets paint surface).1 = none := by
  unfold request
  cases found : assets.source? paint with
  | none => rfl
  | some source =>
      rw [← Option.not_isSome_iff_eq_none, answers, refused source found]
      exact Bool.false_ne_true

/-- What is settled in one cache is supplied from a cache that covers it, and a shader is
not built again. -/
theorem Covers.supply {other : ShaderCache S} (covers : Covers accepts assets cache other)
    {shader? : Option S} (settled : Settled accepts assets cache paint shader?) :
    (other.supply build assets paint surface).1 = shader? ∧
      (shader?.isSome = true → (other.supply build assets paint surface).2 = surface) := by
  have found := covers paint shader? settled
  unfold ShaderCache.supply
  cases settled with
  | used _ =>
      obtain ⟨⟨_, used⟩, isHeld, rfl⟩ := Option.map_eq_some_iff.1 found
      rw [isHeld]
      exact ⟨rfl, fun _ => rfl⟩
  | declined refused vacant =>
      rw [Option.map_eq_none_iff.1 found]
      exact ⟨request_of_refused answers refused, by rintro ⟨⟩⟩

/-- A cache goes on to cover what it covers, whatever is resolved. -/
theorem Covers.resolve {other : ShaderCache S} (covers : Covers accepts assets cache other)
    (paint : Paint) :
    Covers accepts assets cache (other.resolve build assets paint surface).2.1 := by
  have supplied := supplied_resolve build assets paint other surface
  intro different shader? settled
  by_cases here : different = paint
  · subst here
    rw [supplied.here, (covers.supply answers settled).1, Option.map_map]
    exact Option.map_id_fun' ▸ rfl
  · rw [supplied.elsewhere different here]
    exact covers different shader? settled

/-- Once a paint is resolved it is settled. -/
theorem settled_resolve (cache : ShaderCache S) (paint : Paint) :
    Settled accepts assets (cache.resolve build assets paint surface).2.1 paint
      (cache.supply build assets paint surface).1 := by
  have supplied := supplied_resolve build assets paint cache surface
  have here := supplied.here
  rw [← supplied.frame] at here
  cases provided : (cache.supply build assets paint surface).1 with
  | some shader =>
      rw [provided] at here
      exact .used here
  | none =>
      rw [provided] at here
      refine .declined (fun source found => ?_) here
      unfold ShaderCache.supply at provided
      split at provided
      · cases provided
      · rw [request, found] at provided
        rw [← answers, provided]
        rfl

/-- A paint that is settled stays settled, whatever is resolved. -/
theorem keeps_resolve (cache : ShaderCache S) (paint : Paint) :
    Keeps accepts assets cache (cache.resolve build assets paint surface).2.1 := by
  have supplied := supplied_resolve build assets paint cache surface
  refine ⟨supplied.frame, fun other shader? settled => ?_⟩
  by_cases here : other = paint
  · subst here
    have same : (cache.supply build assets other surface).1 = shader? :=
      ((covers_self cache).supply answers settled).1
    exact same ▸ settled_resolve answers cache other
  · cases settled with
    | used isHeld =>
        refine .used ?_
        rw [supplied.elsewhere other here, supplied.frame, isHeld]
    | declined refused vacant =>
        refine .declined refused ?_
        rw [supplied.elsewhere other here, vacant]

end Answers

end ShaderCache

end ScenePlayer
