import ScenePlayer.Raster.Mask
import ScenePlayer.State.DrawState
import ScenePlayer.Table

/-!
Clip masks. The mask of a clip is folded from its outermost region inwards over
a mask that covers everything (`Clip.mask`). Masks are kept under the identifier
of the innermost region, so that a clip starts from the mask of the nearest
ancestor that has one. What an outline covers is up to a rasteriser.
-/

namespace ScenePlayer

/-- How much of each pixel the image of an outline covers, on a surface of a given
size. -/
abbrev Rasteriser : Type := (width height : Nat) → Outline → Transform → Mask

namespace ClipMode

/-- How much of a pixel a region keeps that covers `cover` of it. -/
def keep : ClipMode → UInt8 → UInt8
  | .intersect, cover => cover
  | .difference, cover => 255 - cover

end ClipMode

namespace ClipNode

/-- The pixels of a region; a region without an outline has none. -/
def coverage (raster : Rasteriser) (width height : Nat) (node : ClipNode) : Mask :=
  match node.outline with
  | none => .empty width height
  | some outline => raster width height outline node.transform

/-- Restrict a mask by a region. -/
def restrict (raster : Rasteriser) (node : ClipNode) (mask : Mask) : Mask :=
  let coverage := node.coverage raster mask.width mask.height
  { mask with
    cells := Array.zipWith (fun cell cover => Mask.part cell (node.mode.keep cover)) mask.cells
      coverage.cells }

end ClipNode

/-- The mask of a clip: its regions, the outermost first, restrict a mask that covers
everything. -/
def Clip.mask (raster : Rasteriser) (width height : Nat) (clip : Clip) : Mask :=
  clip.reverse.foldl (fun mask node => node.restrict raster mask) (.full width height)

/-- The masks of the clips seen so far, under the identifiers of their innermost
regions. -/
structure ClipMasks where
  masks : Table Nat Mask := ∅

namespace ClipMasks

def find? (cache : ClipMasks) (id : Nat) : Option Mask := cache.masks.find? id

def size (cache : ClipMasks) : Nat := cache.masks.size

/-- The mask of a clip, and the cache with the masks of all its regions. -/
def build (raster : Rasteriser) (width height : Nat) : Clip → ClipMasks → Mask × ClipMasks
  | [], cache => (.full width height, cache)
  | node :: outer, cache =>
      match cache.find? node.id with
      | some mask => (mask, cache)
      | none =>
          let (mask, cache) := build raster width height outer cache
          let mask := node.restrict raster mask
          (mask, ⟨cache.masks.insert node.id mask⟩)

/-- Make the mask of a clip available. The answer is the identifier to find it
under; there is none for no clip, and none on a surface without pixels. -/
def prepareWith (raster : Rasteriser) (width height : Nat) (clip : Clip) (cache : ClipMasks) :
    Option Nat × ClipMasks :=
  match clip with
  | [] => (none, cache)
  | node :: _ =>
      if width = 0 ∨ height = 0 then (none, cache)
      else (some node.id, (build raster width height clip cache).2)

end ClipMasks

end ScenePlayer
