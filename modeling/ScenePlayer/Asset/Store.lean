import ScenePlayer.Asset.Picture
import ScenePlayer.Table

/-!
The asset store: images, streamed textures and fonts, each kind with its own
identifiers. Every insertion gets a stamp greater than all before it, across
deletions and clears, so two payloads stored at different times never share
one. What depends on a payload compares stamps.
-/

namespace ScenePlayer

inductive AssetKind where
  | image
  | stream
  | font
  deriving DecidableEq, Repr

def AssetKind.name : AssetKind → String
  | .image => "image"
  | .stream => "stream"
  | .font => "font"

/-- A stored picture and the stamp of its insertion. -/
structure Texture where
  picture : Picture
  stamp : Nat
  deriving DecidableEq, Repr

/-- The bytes of a font file. There is at least one. -/
structure FontFile where
  bytes : Bytes
  nonempty : bytes ≠ []
  deriving DecidableEq, Repr

/-- A font file and the stamp of its insertion. -/
structure Font where
  file : FontFile
  stamp : Nat
  deriving DecidableEq, Repr

/-- A payload ready for insertion. -/
inductive Asset where
  | image (picture : Picture)
  | stream (picture : Picture)
  | font (file : FontFile)
  deriving DecidableEq, Repr

def Asset.kind : Asset → AssetKind
  | .image _ => .image
  | .stream _ => .stream
  | .font _ => .font

/-- The font payload of some bytes. -/
def Asset.ofFontBytes (bytes : Bytes) : Except AssetError Asset :=
  if nonempty : bytes ≠ [] then .ok (.font ⟨bytes, nonempty⟩) else .error .emptyFont

/-- The image payload of an image file. -/
def Asset.ofImageFile (decoder : ImageDecoder) (bytes : Bytes) : Except AssetError Asset :=
  (Picture.ofFile decoder bytes).map .image

/-- The stream payload of an uploaded texture. -/
def Asset.ofStreamUpload (decoder : ImageDecoder) (format : TextureFormat) (width height : Nat)
    (bytes : Bytes) : Except AssetError Asset :=
  (Picture.ofTexture decoder format width height bytes).map .stream

/-- Which asset changed. -/
structure AssetChange where
  kind : AssetKind
  id : String
  deriving DecidableEq, Repr

structure AssetStore where
  images : Table String Texture := ∅
  streams : Table String Texture := ∅
  fonts : Table String Font := ∅
  /-- The stamp given out last. -/
  stamp : Nat := 0

namespace AssetStore

/-- Store a payload, replacing what its kind had under `id`. -/
def insert (id : String) (asset : Asset) (store : AssetStore) : AssetChange × AssetStore :=
  let stamp := store.stamp + 1
  let after := { store with stamp }
  (⟨asset.kind, id⟩,
    match asset with
    | .image picture => { after with images := store.images.insert id ⟨picture, stamp⟩ }
    | .stream picture => { after with streams := store.streams.insert id ⟨picture, stamp⟩ }
    | .font file => { after with fonts := store.fonts.insert id ⟨file, stamp⟩ })

/-- Store a payload that may have been refused. -/
def put (id : String) (asset : Except AssetError Asset) (store : AssetStore) :
    Except AssetError AssetChange × AssetStore :=
  match asset with
  | .error error => (.error error, store)
  | .ok asset =>
      let (change, after) := store.insert id asset
      (.ok change, after)

def contains (kind : AssetKind) (id : String) (store : AssetStore) : Bool :=
  match kind with
  | .image => store.images.contains id
  | .stream => store.streams.contains id
  | .font => store.fonts.contains id

/-- Remove an asset; the answer names it if there was one. -/
def delete (kind : AssetKind) (id : String) (store : AssetStore) :
    Option AssetChange × AssetStore :=
  (if store.contains kind id then some ⟨kind, id⟩ else none,
    match kind with
    | .image => { store with images := store.images.erase id }
    | .stream => { store with streams := store.streams.erase id }
    | .font => { store with fonts := store.fonts.erase id })

def image? (store : AssetStore) (id : String) : Option Texture := store.images.find? id

def stream? (store : AssetStore) (id : String) : Option Texture := store.streams.find? id

def font? (store : AssetStore) (id : String) : Option Font := store.fonts.find? id

/-- The image under `id`, or else the stream. -/
def texture? (store : AssetStore) (id : String) : Option Texture :=
  match store.image? id with
  | some texture => some texture
  | none => store.stream? id

def size (store : AssetStore) : Nat :=
  store.images.size + store.streams.size + store.fonts.size

/-- Drop all assets; stamps go on. -/
def clear (store : AssetStore) : AssetStore := { stamp := store.stamp }

theorem stamp_insert (id : String) (asset : Asset) (store : AssetStore) :
    (store.insert id asset).2.stamp = store.stamp + 1 := by
  cases asset <;> rfl

theorem stamp_delete (kind : AssetKind) (id : String) (store : AssetStore) :
    (store.delete kind id).2.stamp = store.stamp := by
  cases kind <;> rfl

end AssetStore

end ScenePlayer
