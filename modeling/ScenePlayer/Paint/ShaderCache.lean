import ScenePlayer.Asset.Store
import ScenePlayer.Paint.GradientKey

/-!
Paint resolution. Solid colours go straight through. Shaders are built by the
surface and cached: gradients under a key of their bit patterns, images and streams
under their identifier together with the stamp of the payload they were built
from. A shader is rebuilt once the store holds another payload, or after the
change was announced; entries that no frame has used for a while are evicted.
-/

namespace ScenePlayer

/-- What a surface is asked to build a shader from. -/
inductive ShaderSource where
  | gradient (gradient : Gradient)
  | texture (texture : Texture)
  deriving DecidableEq, Repr

/-- A paint that can be drawn with, for shaders of type `S`. -/
inductive Ink (S : Type) where
  | solid (colour : Colour)
  | shader (shader : S)
  deriving DecidableEq, Repr

inductive ResolveError where
  | missingAsset (kind : AssetKind) (id : String)
  /-- The surface cannot build a shader for the paint. -/
  | unsupported
  deriving DecidableEq, Repr

def ResolveError.message : ResolveError → String
  | .missingAsset kind id => kind.name ++ s!" asset `{id}` is not loaded"
  | .unsupported => "backend cannot build a shader for this paint"

structure GradientEntry (S : Type) where
  shader : S
  /-- The frame in which the entry was used last. -/
  lastUsed : Nat
  deriving DecidableEq, Repr

structure TextureEntry (S : Type) where
  shader : S
  /-- The stamp of the payload from which the shader was built. -/
  stamp : Nat
  lastUsed : Nat
  deriving DecidableEq, Repr

/-- The two kinds of assets that can be painted with. -/
inductive TextureKind where
  | image
  | stream
  deriving DecidableEq, Repr

def TextureKind.asset : TextureKind → AssetKind
  | .image => .image
  | .stream => .stream

/-- The texture of a kind under an identifier. -/
def AssetStore.textureOf (store : AssetStore) (kind : TextureKind) (id : String) :
    Option Texture :=
  match kind with
  | .image => store.image? id
  | .stream => store.stream? id

/-- What the cache has done so far, and how many entries it holds. -/
structure ShaderStats where
  hits : Nat
  misses : Nat
  evictions : Nat
  invalidations : Nat
  entries : Nat
  deriving DecidableEq, Repr

/-- How many frames an unused entry is kept unless told otherwise. -/
def ShaderCache.defaultIdleFrames : Nat := 600

structure ShaderCache (S : Type) where
  /-- For how many frames an unused entry is kept. -/
  idleFrames : Nat := ShaderCache.defaultIdleFrames
  gradients : Table GradientKey (GradientEntry S) := ∅
  images : Table String (TextureEntry S) := ∅
  streams : Table String (TextureEntry S) := ∅
  frame : Nat := 0
  hits : Nat := 0
  misses : Nat := 0
  evictions : Nat := 0
  invalidations : Nat := 0

namespace ShaderCache

variable {σ S : Type}

def size (cache : ShaderCache S) : Nat :=
  cache.gradients.size + cache.images.size + cache.streams.size

def stats (cache : ShaderCache S) : ShaderStats :=
  ⟨cache.hits, cache.misses, cache.evictions, cache.invalidations, cache.size⟩

def textures (cache : ShaderCache S) : TextureKind → Table String (TextureEntry S)
  | .image => cache.images
  | .stream => cache.streams

def setTextures (kind : TextureKind) (entries : Table String (TextureEntry S))
    (cache : ShaderCache S) : ShaderCache S :=
  match kind with
  | .image => { cache with images := entries }
  | .stream => { cache with streams := entries }

/-- Drop the shader of a changed texture, if there is one. -/
def dropTexture (kind : TextureKind) (id : String) (cache : ShaderCache S) :
    Bool × ShaderCache S :=
  if (cache.textures kind).contains id then
    (true,
      { cache.setTextures kind ((cache.textures kind).erase id) with
        invalidations := cache.invalidations + 1 })
  else (false, cache)

/-- Drop the shader of a changed asset; the answer is whether there was one. -/
def invalidate (kind : AssetKind) (id : String) (cache : ShaderCache S) :
    Bool × ShaderCache S :=
  match kind with
  | .image => cache.dropTexture .image id
  | .stream => cache.dropTexture .stream id
  | .font => (false, cache)

/-- Whether an entry last used in `lastUsed` is still kept. -/
def isLive (cache : ShaderCache S) (lastUsed : Nat) : Bool :=
  decide (cache.frame - lastUsed ≤ cache.idleFrames)

/-- Evict idle entries and go on to the next frame; the answer is the number
of entries dropped. -/
def endFrame (cache : ShaderCache S) : Nat × ShaderCache S :=
  let kept :=
    { cache with
      gradients := cache.gradients.filter fun _ entry => cache.isLive entry.lastUsed
      images := cache.images.filter fun _ entry => cache.isLive entry.lastUsed
      streams := cache.streams.filter fun _ entry => cache.isLive entry.lastUsed }
  let evicted := cache.size - kept.size
  (evicted, { kept with evictions := cache.evictions + evicted, frame := cache.frame + 1 })

/-- Drop every entry. -/
def clear (cache : ShaderCache S) : ShaderCache S :=
  { cache with gradients := ∅, images := ∅, streams := ∅ }

/-- A builder of shaders on a surface of type `σ`; it may decline. -/
abbrev Builder (σ S : Type) : Type := ShaderSource → σ → Option S × σ

/-- The answer to a resolution, the cache and the surface it leaves. -/
abbrev Resolution (σ S : Type) : Type := Except ResolveError (Ink S) × ShaderCache S × σ

/-- Resolve a gradient: from the cache, or by building it. -/
def resolveGradient (build : Builder σ S) (gradient : Gradient) (cache : ShaderCache S)
    (surface : σ) : Resolution σ S :=
  match cache.gradients.find? gradient.key with
  | some entry =>
      (.ok (.shader entry.shader),
        { cache with
          gradients := cache.gradients.insert gradient.key { entry with lastUsed := cache.frame }
          hits := cache.hits + 1 },
        surface)
  | none =>
      let cache := { cache with misses := cache.misses + 1 }
      match build (.gradient gradient) surface with
      | (none, surface) => (.error .unsupported, cache, surface)
      | (some shader, surface) =>
          (.ok (.shader shader),
            { cache with
              gradients := cache.gradients.insert gradient.key ⟨shader, cache.frame⟩ },
            surface)

/-- Build the shader of a texture that is not cached. -/
def buildTexture (build : Builder σ S) (kind : TextureKind) (id : String)
    (current : Option Texture) (cache : ShaderCache S) (surface : σ) : Resolution σ S :=
  let cache := { cache with misses := cache.misses + 1 }
  match current with
  | none => (.error (.missingAsset kind.asset id), cache, surface)
  | some texture =>
      match build (.texture texture) surface with
      | (none, surface) => (.error .unsupported, cache, surface)
      | (some shader, surface) =>
          (.ok (.shader shader),
            cache.setTextures kind
              ((cache.textures kind).insert id ⟨shader, texture.stamp, cache.frame⟩),
            surface)

/-- Resolve an image or a stream. An entry built from another payload than the
one stored now is dropped. -/
def resolveTexture (build : Builder σ S) (assets : AssetStore) (kind : TextureKind)
    (id : String) (cache : ShaderCache S) (surface : σ) : Resolution σ S :=
  let current := assets.textureOf kind id
  match (cache.textures kind).find? id with
  | none => cache.buildTexture build kind id current surface
  | some entry =>
      if current.map Texture.stamp = some entry.stamp then
        (.ok (.shader entry.shader),
          { cache.setTextures kind
              ((cache.textures kind).insert id { entry with lastUsed := cache.frame }) with
            hits := cache.hits + 1 },
          surface)
      else
        (cache.setTextures kind ((cache.textures kind).erase id)).buildTexture build kind id
          current surface

/-- Bring a paint into a form that the surface can draw with. Failures are not
cached. -/
def resolve (build : Builder σ S) (assets : AssetStore) (paint : Paint)
    (cache : ShaderCache S) (surface : σ) : Resolution σ S :=
  match paint with
  | .colour colour => (.ok (.solid colour), cache, surface)
  | .gradient gradient => cache.resolveGradient build gradient surface
  | .image id => cache.resolveTexture build assets .image id surface
  | .stream id => cache.resolveTexture build assets .stream id surface

end ShaderCache

end ScenePlayer
