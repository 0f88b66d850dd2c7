import ScenePlayer.Proofs.Bytes.Parts
import ScenePlayer.Proofs.Raster.ClipMasks
import ScenePlayer.Raster.Crisp

/-!
The algebra of clip masks. A pixel of a clip's mask is folded from 255 inwards, each region
keeping a rounded part of it (`Clip.pixel_mask_cons`). A part is never more than the whole, and
it is exact where nothing or everything is kept. So masks only shrink from an ancestor inwards,
and where regions cover a pixel fully or not at all, so that nothing is rounded, their order
does not matter (`Clip.masks_shrink_inwards`).
-/

namespace ScenePlayer

/-! ### Pixels of masks -/

namespace Mask

/-- A mask has a size and a value for each pixel. -/
structure Sized (width height : Nat) (mask : Mask) : Prop where
  columns : mask.width = width
  rows : mask.height = height
  cells : mask.cells.size = width * height

/-- The value of pixel `i`, row by row. -/
def pixel (mask : Mask) (i : Nat) : UInt8 := mask.cells.getD i 0

variable {width height : Nat} {mask other : Mask}

theorem sized_full : Sized width height (.full width height) :=
  ⟨rfl, rfl, Array.size_replicate⟩

theorem sized_empty : Sized width height (.empty width height) :=
  ⟨rfl, rfl, Array.size_replicate⟩

theorem sized_tabulate (f : Nat → Nat → UInt8) : Sized width height (.tabulate width height f) :=
  ⟨rfl, rfl, Array.size_ofFn⟩

theorem pixel_full {i : Nat} (inside : i < width * height) : (full width height).pixel i = 255 := by
  simp [pixel, full, inside]

theorem pixel_empty (i : Nat) : (empty width height).pixel i = 0 := by
  simp [pixel, empty, Array.getD]

/-- Masks of one size are told apart by their pixels. -/
theorem Sized.ext (sized : Sized width height mask) (alike : Sized width height other)
    (same : ∀ i < width * height, mask.pixel i = other.pixel i) : mask = other := by
  obtain ⟨_, _, cells⟩ := mask
  obtain ⟨_, _, others⟩ := other
  obtain ⟨rfl, rfl, size⟩ := sized
  obtain ⟨rfl, rfl, otherSize⟩ := alike
  have equal : cells = others := by
    refine Array.ext (size.trans otherSize.symm) fun i inside within => ?_
    have pixels := same i (size ▸ inside)
    simpa [pixel, inside, within] using pixels
  rw [equal]

end Mask

/-! ### Rounded parts -/

namespace ClipMode

/-- What is kept of a pixel, in the integers. -/
def kept : ClipMode → UInt8 → Int
  | .intersect, cover => cover.toNat
  | .difference, cover => 255 - cover.toNat

/-- What is kept of a pixel, as a word of 16 bits. -/
def keptWord : ClipMode → UInt8 → UInt16
  | .intersect, cover => cover.toUInt16
  | .difference, cover => 255 - cover.toUInt16

theorem toNat_keep (mode : ClipMode) (cover : UInt8) :
    ((mode.keep cover).toNat : Int) = mode.kept cover := by
  have most : cover.toNat < 256 := cover.toNat_lt
  have all : (255 : UInt8).toNat = 255 := rfl
  cases mode with
  | intersect => rfl
  | difference =>
      have enough : cover ≤ 255 := by
        rw [UInt8.le_iff_toNat_le, all]
        omega
      rw [keep, kept, UInt8.toNat_sub_of_le _ _ enough, all]
      omega

theorem toNat_keptWord (mode : ClipMode) (cover : UInt8) :
    (mode.keptWord cover).toNat = (mode.keep cover).toNat := by
  have most : cover.toNat < 256 := cover.toNat_lt
  have value := toNat_keep mode cover
  cases mode with
  | intersect => exact UInt8.toNat_toUInt16 cover
  | difference =>
      have all : (255 : UInt16).toNat = 255 := rfl
      have enough : cover.toUInt16 ≤ 255 := by
        rw [UInt16.le_iff_toNat_le, UInt8.toNat_toUInt16, all]
        omega
      rw [kept] at value
      rw [keptWord, UInt16.toNat_sub_of_le _ _ enough, UInt8.toNat_toUInt16, all]
      omega

end ClipMode

namespace Mask

/-- A part, worked out in words of 16 bits, is what it is in the integers, and so is all that comes
up on the way to it: what is kept, the product, the sum and the quotient. -/
structure Exact (mode : ClipMode) (cell cover result : UInt8) : Prop where
  kept : ((mode.keptWord cover).toNat : Int) = mode.kept cover
  product : ((cell.toUInt16 * mode.keptWord cover).toNat : Int) = cell.toNat * mode.kept cover
  sum : ((cell.toUInt16 * mode.keptWord cover + 127).toNat : Int) =
    cell.toNat * mode.kept cover + 127
  quotient : (((cell.toUInt16 * mode.keptWord cover + 127) / 255).toNat : Int) =
    (cell.toNat * mode.kept cover + 127) / 255
  narrowed : result = ((cell.toUInt16 * mode.keptWord cover + 127) / 255).toUInt8
  result : (result.toNat : Int) = (cell.toNat * mode.kept cover + 127) / 255

theorem exact_part (mode : ClipMode) (cell cover : UInt8) :
    Exact mode cell cover (part cell (mode.keep cover)) := by
  have kept := mode.toNat_keep cover
  have word := mode.toNat_keptWord cover
  have most := Pixel.mul_toNat_le cell (mode.keep cover)
  have small : (127 : UInt16).toNat = 127 := rfl
  have all : (255 : UInt16).toNat = 255 := rfl
  have product : (cell.toUInt16 * mode.keptWord cover).toNat =
      cell.toNat * (mode.keep cover).toNat := by
    rw [UInt16.toNat_mul, UInt8.toNat_toUInt16, word, Nat.mod_eq_of_lt]
    omega
  have sum : (cell.toUInt16 * mode.keptWord cover + 127).toNat =
      cell.toNat * (mode.keep cover).toNat + 127 := by
    rw [UInt16.toNat_add, product, small, Nat.mod_eq_of_lt]
    omega
  have quotient : ((cell.toUInt16 * mode.keptWord cover + 127) / 255).toNat =
      (cell.toNat * (mode.keep cover).toNat + 127) / 255 := by
    rw [UInt16.toNat_div, sum, all]
  have narrowed : part cell (mode.keep cover) =
      ((cell.toUInt16 * mode.keptWord cover + 127) / 255).toUInt8 := by
    rw [← UInt8.toNat_inj, part_eq_scale, Pixel.toNat_scale, UInt16.toNat_toUInt8, quotient,
      Nat.mod_eq_of_lt]
    omega
  have rounded : ((cell.toNat * (mode.keep cover).toNat + 127 : Nat) : Int) =
      cell.toNat * mode.kept cover + 127 := by
    rw [← kept, Int.natCast_add, Int.natCast_mul]
    rfl
  refine ⟨?_, ?_, ?_, ?_, narrowed, ?_⟩
  · rw [word, kept]
  · rw [product, ← kept, Int.natCast_mul]
  · rw [sum, rounded]
  · rw [quotient, ← rounded, Int.natCast_ediv]
    rfl
  · rw [part_eq_scale, Pixel.toNat_scale, ← rounded, Int.natCast_ediv]
    rfl

end Mask

/-! ### Masks of clips -/

/-- A rasteriser whose masks have the size that is asked for. -/
def Rasteriser.Sized (raster : Rasteriser) : Prop :=
  ∀ width height outline transform, (raster width height outline transform).Sized width height

/-- The rasteriser without anti-aliasing is one. -/
theorem Mask.sized_ofOutline : Rasteriser.Sized .ofOutline := by
  intro width height outline transform
  unfold Mask.ofOutline
  split
  · exact Mask.sized_empty
  · split
    · unfold Mask.ofPolygons
      exact Mask.sized_tabulate _
    · exact Mask.sized_empty

/-- How much of pixel `i` a region covers. -/
def ClipNode.cover (raster : Rasteriser) (width height i : Nat) (node : ClipNode) : UInt8 :=
  (node.coverage raster width height).pixel i

theorem ClipNode.cover_of_no_outline (raster : Rasteriser) (width height i : Nat)
    {node : ClipNode} (none : node.outline = none) : node.cover raster width height i = 0 := by
  rw [cover, coverage, none]
  exact Mask.pixel_empty i

section Sized

variable {raster : Rasteriser} (sized : raster.Sized) (width height : Nat)

include sized

theorem ClipNode.sized_coverage (node : ClipNode) :
    (node.coverage raster width height).Sized width height := by
  unfold ClipNode.coverage
  split
  · exact Mask.sized_empty
  · exact sized width height _ _

variable {width height}

theorem ClipNode.sized_restrict (node : ClipNode) {mask : Mask} (before : mask.Sized width height) :
    (node.restrict raster mask).Sized width height := by
  have cells : mask.cells.size = mask.width * mask.height := by
    rw [before.columns, before.rows, before.cells]
  refine ⟨before.columns, before.rows, ?_⟩
  simp only [restrict, Array.size_zipWith, (sized_coverage sized _ _ node).cells, cells,
    Nat.min_self, before.columns, before.rows]

/-- A region keeps its part of each pixel. -/
theorem ClipNode.pixel_restrict (node : ClipNode) {mask : Mask} (before : mask.Sized width height)
    {i : Nat} (inside : i < width * height) :
    (node.restrict raster mask).pixel i =
      Mask.part (mask.pixel i) (node.mode.keep (node.cover raster width height i)) := by
  have cells := before.cells
  have covers := (sized_coverage sized width height node).cells
  simp [restrict, cover, Mask.pixel, before.columns, before.rows, cells, covers, inside]

theorem Clip.sized_mask (clip : Clip) : (clip.mask raster width height).Sized width height := by
  induction clip with
  | nil => exact Mask.sized_full
  | cons node outer ih =>
      rw [mask_cons]
      exact node.sized_restrict sized ih

theorem Clip.pixel_mask_cons (node : ClipNode) (outer : Clip) {i : Nat}
    (inside : i < width * height) :
    (Clip.mask raster width height (node :: outer)).pixel i =
      Mask.part ((outer.mask raster width height).pixel i)
        (node.mode.keep (node.cover raster width height i)) := by
  rw [mask_cons]
  exact node.pixel_restrict sized (sized_mask sized outer) inside

/-- A region keeps no more of a pixel than its ancestors do. -/
theorem Clip.pixel_mask_le {clip ancestor : Clip} (behind : ancestor <:+ clip) {i : Nat}
    (inside : i < width * height) :
    (clip.mask raster width height).pixel i ≤ (ancestor.mask raster width height).pixel i := by
  induction clip with
  | nil =>
      rw [List.suffix_nil.1 behind]
      exact UInt8.le_refl _
  | cons node outer ih =>
      rcases List.suffix_cons_iff.1 behind with rfl | further
      · exact UInt8.le_refl _
      · rw [pixel_mask_cons sized node outer inside]
        exact UInt8.le_trans (Pixel.scale_le _ _) (ih further)

end Sized

/-! ### Pixels that are covered fully or not at all -/

namespace Clip

/-- A pixel lies in a clip: every region to intersect with covers it, and no region to exclude. -/
def Inside (cover : ClipNode → UInt8) (clip : Clip) : Prop :=
  (∀ node ∈ clip, node.mode = .intersect → cover node = 255) ∧
    ∀ node ∈ clip, node.mode = .difference → cover node = 0

instance (cover : ClipNode → UInt8) (clip : Clip) : Decidable (Inside cover clip) :=
  inferInstanceAs (Decidable (_ ∧ _))

/-- Each region covers a pixel fully or not at all. -/
def Crisp (cover : ClipNode → UInt8) (clip : Clip) : Prop :=
  ∀ node ∈ clip, cover node = 0 ∨ cover node = 255

variable {cover : ClipNode → UInt8} {clip reordered : Clip}

theorem Inside.perm (same : reordered.Perm clip) : Inside cover reordered ↔ Inside cover clip := by
  simp only [Inside, same.mem_iff]

theorem Crisp.perm (same : reordered.Perm clip) (crisp : Crisp cover clip) :
    Crisp cover reordered :=
  fun node member => crisp node (same.subset member)

/-- A region that covers a pixel fully or not at all keeps all of it or nothing. -/
theorem keep_crisp (mode : ClipMode) {cover : UInt8} (crisp : cover = 0 ∨ cover = 255) :
    mode.keep cover = 0 ∨ mode.keep cover = 255 := by
  rcases crisp with rfl | rfl <;> cases mode <;> decide

theorem inside_cons (node : ClipNode) (outer : Clip)
    (crisp : cover node = 0 ∨ cover node = 255) :
    Inside cover (node :: outer) ↔ node.mode.keep (cover node) = 255 ∧ Inside cover outer := by
  have own : (node.mode = .intersect → cover node = 255) ∧
      (node.mode = .difference → cover node = 0) ↔ node.mode.keep (cover node) = 255 := by
    rcases crisp with covered | covered <;> rw [covered] <;> cases node.mode <;> decide
  simp only [Inside, List.forall_mem_cons, ← own]
  tauto

variable {raster : Rasteriser} (sized : raster.Sized) {width height : Nat}

include sized

/-- Nothing is rounded where regions cover a pixel fully or not at all. -/
theorem pixel_mask_of_crisp {i : Nat} (inside : i < width * height)
    (crisp : Crisp (ClipNode.cover raster width height i) clip) :
    (clip.mask raster width height).pixel i =
      if Inside (ClipNode.cover raster width height i) clip then 255 else 0 := by
  induction clip with
  | nil =>
      rw [if_pos ⟨by simp, by simp⟩]
      exact Mask.pixel_full inside
  | cons node outer ih =>
      obtain ⟨own, further⟩ := List.forall_mem_cons.1 crisp
      have split := inside_cons node outer own
      rw [pixel_mask_cons sized node outer inside, ih further]
      rcases keep_crisp node.mode own with none | all
      · have outside : ¬ Inside (ClipNode.cover raster width height i) (node :: outer) := by
          rw [split, none]
          exact fun both => absurd both.1 (by decide)
        rw [if_neg outside, none]
        exact Pixel.scale_zero _
      · rw [all, eq_self_iff_true, true_and] at split
        simp only [split, all]
        exact Pixel.scale_opaque _

/-- The order of regions that cover a pixel fully or not at all does not matter. -/
theorem pixel_mask_of_perm (same : reordered.Perm clip) {i : Nat} (inside : i < width * height)
    (crisp : Crisp (ClipNode.cover raster width height i) clip) :
    (reordered.mask raster width height).pixel i = (clip.mask raster width height).pixel i := by
  rw [pixel_mask_of_crisp sized inside crisp,
    pixel_mask_of_crisp sized inside (crisp.perm same)]
  simp only [Inside.perm same]

/-- To intersect with a region without an outline leaves nothing, and to exclude it changes
nothing. -/
theorem mask_of_no_outline {node : ClipNode} (none : node.outline = none) (outer : Clip) :
    Clip.mask raster width height (node :: outer) =
      match node.mode with
      | .intersect => .empty width height
      | .difference => outer.mask raster width height := by
  have uncovered (i : Nat) := node.cover_of_no_outline raster width height i none
  have own : (Clip.mask raster width height (node :: outer)).Sized width height :=
    sized_mask sized _
  cases mode : node.mode with
  | intersect =>
      refine own.ext Mask.sized_empty fun i inside => ?_
      rw [pixel_mask_cons sized node outer inside, uncovered, mode, Mask.pixel_empty]
      exact Pixel.scale_zero _
  | difference =>
      refine own.ext (sized_mask sized outer) fun i inside => ?_
      rw [pixel_mask_cons sized node outer inside, uncovered, mode]
      exact Pixel.scale_opaque _

end Clip

namespace Clip

/-- **The algebra of clip masks.** Whatever the size of the surface and however long the clip, and
whatever its regions cover: the mask has a value for each pixel, and none is greater than that of
the same pixel in the mask of an ancestor. On the way to it, no word of 16 bits overflows. Where
each region covers a pixel fully or not at all, the mask has 255 if all regions to intersect with
cover the pixel and no region to exclude does, and else 0; so the order of the regions does not
matter there, nor for the whole mask if all its pixels are such. A region without an outline covers
nothing, whichever its mode. On a surface with pixels, these masks are those that are found under
the identifiers of the regions, once their clips have been prepared. -/
theorem masks_shrink_inwards (raster : Rasteriser) (sized : raster.Sized) (width height : Nat)
    (clip : Clip) :
    let mask (clip : Clip) := clip.mask raster width height
    let cover (i : Nat) := ClipNode.cover raster width height i
    (mask clip).Sized width height ∧
      (∀ ancestor, ancestor <:+ clip → ∀ i < width * height,
        (mask clip).pixel i ≤ (mask ancestor).pixel i) ∧
      (∀ node outer, node :: outer <:+ clip → ∀ i < width * height,
        Mask.Exact node.mode ((mask outer).pixel i) (cover i node)
          ((mask (node :: outer)).pixel i)) ∧
      (∀ i < width * height, Crisp (cover i) clip →
        (mask clip).pixel i = (if Inside (cover i) clip then 255 else 0) ∧
          ∀ reordered : Clip, reordered.Perm clip →
            (mask reordered).pixel i = (mask clip).pixel i) ∧
      ((∀ i < width * height, Crisp (cover i) clip) →
        ∀ reordered : Clip, reordered.Perm clip → mask reordered = mask clip) ∧
      (∀ node outer, node.outline = none → node :: outer <:+ clip →
        (∀ i, cover i node = 0) ∧
          mask (node :: outer) = match node.mode with
            | .intersect => .empty width height
            | .difference => mask outer) ∧
      ∀ clips, 0 < width → 0 < height → Consistent {clip | clip ∈ clips} →
        clip ∈ clips → ∀ node outer, node :: outer <:+ clip →
          (ClipMasks.prepared raster width height clips).find? node.id =
            some (mask (node :: outer)) := by
  intro mask cover
  refine ⟨sized_mask sized clip, fun ancestor behind i inside => pixel_mask_le sized behind inside,
    ?_, ?_, ?_, ?_, ?_⟩
  · intro node outer _ i inside
    simp only [mask, pixel_mask_cons sized node outer inside]
    exact Mask.exact_part node.mode _ _
  · intro i inside crisp
    exact ⟨pixel_mask_of_crisp sized inside crisp, fun reordered same =>
      pixel_mask_of_perm sized same inside crisp⟩
  · intro crisp reordered same
    exact (sized_mask sized reordered).ext (sized_mask sized clip) fun i inside =>
      pixel_mask_of_perm sized same inside (crisp i inside)
  · intro node outer none _
    exact ⟨fun i => node.cover_of_no_outline raster width height i none,
      mask_of_no_outline sized none outer⟩
  · intro clips wide high consistent member node outer behind
    exact (ClipMasks.holds_prepared wide high consistent node.id _).2
      ⟨node, outer, ⟨clip, member, behind⟩, rfl, rfl⟩

/-- Two regions to intersect with, of which the inner one covers the second pixel by half, and one
to exclude that has no outline. The first pixel lies in the clip. Without anti-aliasing, too, the
clip is not wider than its outermost region. -/
theorem masks_shrink_inwards_of_half :
    let raster : Rasteriser := fun width height outline _ =>
      .tabulate width height fun x _ => if x = 0 ∨ outline.bounds.left = 0 then 255 else 128
    let region (id : Nat) (mode : ClipMode) (outline : Option Outline) : ClipNode :=
      ⟨id, outline, .identity, mode⟩
    let outer : Clip := [region 1 .intersect (some ⟨[], ⟨0, 0, 1, 1⟩⟩)]
    let clip := region 3 .difference none :: region 2 .intersect (some ⟨[], ⟨1, 0, 1, 1⟩⟩) :: outer
    let mask (clip : Clip) := clip.mask raster 2 1
    raster.Sized ∧ Crisp (ClipNode.cover raster 2 1 0) clip ∧ (mask clip).pixel 0 = 255 ∧
      (mask clip.reverse).pixel 0 = (mask clip).pixel 0 ∧
      (mask clip).pixel 1 ≤ (mask outer).pixel 1 ∧ (mask clip).bytes = [255, 128] ∧
      Consistent {other | other ∈ [outer, clip]} ∧
      (ClipMasks.prepared raster 2 1 [outer, clip]).find? 3 = some (mask clip) ∧
      Rasteriser.Sized .ofOutline ∧
      (Clip.mask .ofOutline 2 1 clip).pixel 1 ≤ (Clip.mask .ofOutline 2 1 outer).pixel 1 := by
  intro raster region outer clip mask
  have sized : raster.Sized := fun _ _ _ _ => Mask.sized_tabulate _
  have crisp : Crisp (ClipNode.cover raster 2 1 0) clip := by
    unfold Crisp
    decide +kernel
  have within : Inside (ClipNode.cover raster 2 1 0) clip := by decide +kernel
  have consistent : Consistent {other | other ∈ [outer, clip]} := by decide
  obtain ⟨-, less, -, crisply, -, -, cached⟩ := masks_shrink_inwards raster sized 2 1 clip
  obtain ⟨pixel, ordered⟩ := crisply 0 (by decide) crisp
  obtain ⟨-, plain, -⟩ := masks_shrink_inwards .ofOutline Mask.sized_ofOutline 2 1 clip
  have behind : outer <:+ clip := ⟨clip.take 2, rfl⟩
  exact ⟨sized, crisp, pixel.trans (if_pos within), ordered _ clip.reverse_perm,
    less outer behind 1 (by decide), by decide +kernel, consistent,
    cached _ (by decide) (by decide) consistent (by simp) _ _ List.suffix_rfl,
    Mask.sized_ofOutline, plain outer behind 1 (by decide)⟩

end Clip

end ScenePlayer
