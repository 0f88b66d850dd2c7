import ScenePlayer.Paint.ShaderCache

/-!
Resolution on a part of a surface. If a builder treats a part of its surface as
another builder treats the whole of its own, the two resolve every paint alike: same
answers, same caches, and the part is left as the whole is (`Shows.resolve`).
-/

namespace ScenePlayer

namespace ShaderCache

variable {τ σ S : Type}

/-- A resolution with only a part of the surface that it leaves. -/
def Resolution.view (view : τ → σ) (resolution : Resolution τ S) : Resolution σ S :=
  (resolution.1, resolution.2.1, view resolution.2.2)

/-- A builder answers as another one does on a part of the surface, and changes that
part as the other does. -/
def Shows (view : τ → σ) (build : Builder τ S) (plain : Builder σ S) : Prop :=
  ∀ source surface, plain source (view surface) =
    ((build source surface).1, view (build source surface).2)

namespace Shows

variable {view : τ → σ} {build : Builder τ S} {plain : Builder σ S}
  (shows : Shows view build plain)

include shows

theorem resolveGradient (gradient : Gradient) (cache : ShaderCache S) (surface : τ) :
    cache.resolveGradient plain gradient (view surface) =
      (cache.resolveGradient build gradient surface).view view := by
  unfold ShaderCache.resolveGradient
  cases cache.gradients.find? gradient.key with
  | some entry => rfl
  | none =>
      rw [shows]
      rcases build (.gradient gradient) surface with ⟨_ | shader, after⟩ <;> rfl

theorem buildTexture (kind : TextureKind) (id : String) (current : Option Texture)
    (cache : ShaderCache S) (surface : τ) :
    cache.buildTexture plain kind id current (view surface) =
      (cache.buildTexture build kind id current surface).view view := by
  unfold ShaderCache.buildTexture
  cases current with
  | none => rfl
  | some texture =>
      dsimp only
      rw [shows]
      rcases build (.texture texture) surface with ⟨_ | shader, after⟩ <;> rfl

theorem resolveTexture (assets : AssetStore) (kind : TextureKind) (id : String)
    (cache : ShaderCache S) (surface : τ) :
    cache.resolveTexture plain assets kind id (view surface) =
      (cache.resolveTexture build assets kind id surface).view view := by
  unfold ShaderCache.resolveTexture
  dsimp only
  cases (cache.textures kind).find? id with
  | none => exact shows.buildTexture kind id _ cache surface
  | some entry =>
      dsimp only
      split
      · rfl
      · exact shows.buildTexture kind id _ _ surface

/-- On a part of a surface a paint is resolved as on the whole. -/
theorem resolve (assets : AssetStore) (paint : Paint) (cache : ShaderCache S) (surface : τ) :
    cache.resolve plain assets paint (view surface) =
      (cache.resolve build assets paint surface).view view := by
  cases paint with
  | colour colour => rfl
  | gradient gradient => exact shows.resolveGradient gradient cache surface
  | image id => exact shows.resolveTexture assets .image id cache surface
  | stream id => exact shows.resolveTexture assets .stream id cache surface

end Shows

end ShaderCache

end ScenePlayer
