import ScenePlayer.Proofs.State.Clip
import ScenePlayer.Raster.Clip

/-!
Cached clip masks are the masks of their clips. As long as clips are consistent, a
cache holds exactly the masks of the clips prepared so far and of their ancestors
(`ClipMasks.Holds`): a mask that is found is the one to go on from, and no mask that
was kept is ever replaced.
-/

namespace ScenePlayer

theorem Clip.mask_cons (raster : Rasteriser) (width height : Nat) (node : ClipNode)
    (outer : Clip) :
    Clip.mask raster width height (node :: outer) =
      node.restrict raster (Clip.mask raster width height outer) := by
  rw [mask, List.reverse_cons, List.foldl_append]
  rfl

namespace ClipMasks

open Clip (Part Consistent)

/-- The cache holds the masks of the clips seen and of their ancestors, under the
identifiers of the innermost regions, and nothing else. -/
def Holds (raster : Rasteriser) (width height : Nat) (seen : Set Clip) (cache : ClipMasks) :
    Prop :=
  ∀ id mask, cache.find? id = some mask ↔
    ∃ node outer, Part seen node outer ∧ node.id = id ∧
      Clip.mask raster width height (node :: outer) = mask

variable {raster : Rasteriser} {width height : Nat} {seen : Set Clip} {cache : ClipMasks}

theorem holds_new : Holds raster width height {clip | clip ∈ []} {} := by
  intro id mask
  constructor
  · rintro ⟨⟩
  · rintro ⟨node, outer, ⟨clip, member, -⟩, -⟩
    cases member

/-- What a cache holds depends on the parts of the clips only. -/
theorem Holds.congr {others : Set Clip} (holds : Holds raster width height seen cache)
    (same : ∀ node outer, Part others node outer ↔ Part seen node outer) :
    Holds raster width height others cache := by
  intro id mask
  simp only [holds id mask, same]

/-- The mask found for a clip is its own. -/
theorem Holds.found {node : ClipNode} {outer : Clip} {mask : Mask}
    (holds : Holds raster width height seen cache)
    (consistent : Consistent (insert (node :: outer) seen))
    (found : cache.find? node.id = some mask) :
    Part seen node outer ∧ Clip.mask raster width height (node :: outer) = mask := by
  obtain ⟨other, further, part, same, rfl⟩ := (holds node.id mask).1 found
  obtain ⟨rfl, rfl⟩ := consistent (part.mono (Set.subset_insert ..))
    (.of_mem (Set.mem_insert ..)) same
  exact ⟨part, rfl⟩

/-- Keeping the mask of a clip whose ancestors have theirs. -/
theorem Holds.keep {node : ClipNode} {outer : Clip}
    (holds : Holds raster width height (insert outer seen) cache)
    (consistent : Consistent (insert (node :: outer) seen)) :
    Holds raster width height (insert (node :: outer) seen)
      ⟨cache.masks.insert node.id (Clip.mask raster width height (node :: outer))⟩ := by
  intro id mask
  rw [find?, Table.find?_insert]
  by_cases same : node.id = id
  · rw [if_pos same, Option.some.injEq]
    constructor
    · rintro rfl
      exact ⟨node, outer, .of_mem (Set.mem_insert ..), same, rfl⟩
    · rintro ⟨other, further, part, identifier, rfl⟩
      obtain ⟨rfl, rfl⟩ := consistent part (.of_mem (Set.mem_insert ..))
        (identifier.trans same.symm)
      rfl
  · -- Other identifiers are those of the ancestors and of clips seen before.
    rw [if_neg same, ← find?, holds id mask]
    constructor
    · rintro ⟨other, further, part, rfl, rfl⟩
      refine ⟨other, further, ?_, rfl, rfl⟩
      exact Clip.part_insert.2 ((Clip.part_insert.1 part).imp_left (·.trans (List.suffix_cons ..)))
    · rintro ⟨other, further, part, rfl, rfl⟩
      refine ⟨other, further, Clip.part_insert.2 ?_, rfl, rfl⟩
      refine (Clip.part_insert.1 part).imp_left fun behind => ?_
      rcases List.suffix_cons_iff.1 behind with whole | ancestors
      · cases whole
        exact absurd rfl same
      · exact ancestors

/-- Building the mask of a clip gives its mask and keeps it, with those of all its
ancestors. -/
theorem Holds.build {clip : Clip} (holds : Holds raster width height seen cache)
    (consistent : Consistent (insert clip seen)) :
    (ClipMasks.build raster width height clip cache).1 = clip.mask raster width height ∧
      Holds raster width height (insert clip seen)
        (ClipMasks.build raster width height clip cache).2 := by
  induction clip with
  | nil =>
      refine ⟨rfl, holds.congr fun node outer => ?_⟩
      rw [Clip.part_insert, List.suffix_nil]
      exact or_iff_right (List.cons_ne_nil _ _)
  | cons node outer ih =>
      cases found : cache.find? node.id with
      | some mask =>
          obtain ⟨known, own⟩ := holds.found consistent found
          simp only [ClipMasks.build, found]
          refine ⟨own.symm, holds.congr fun other further => ?_⟩
          rw [Clip.part_insert, or_iff_right_of_imp]
          intro behind
          obtain ⟨clip, member, whole⟩ := known
          exact ⟨clip, member, behind.trans whole⟩
      | none =>
          have shorter : Consistent (insert outer seen) := consistent.mono fun part =>
            Clip.part_insert.2
              ((Clip.part_insert.1 part).imp_left (·.trans (List.suffix_cons ..)))
          obtain ⟨own, kept⟩ := ih shorter
          simp only [ClipMasks.build, found, own, ← Clip.mask_cons]
          exact ⟨trivial, kept.keep consistent⟩

/-- The cache after preparing some clips, in order. -/
def prepared (raster : Rasteriser) (width height : Nat) (clips : List Clip) : ClipMasks :=
  clips.foldl (fun cache clip => (cache.prepareWith raster width height clip).2) {}

theorem prepared_concat (before : List Clip) (clip : Clip) :
    prepared raster width height (before ++ [clip]) =
      ((prepared raster width height before).prepareWith raster width height clip).2 := by
  rw [prepared, List.foldl_append]
  rfl

theorem prepareWith_cons (wide : 0 < width) (high : 0 < height) (node : ClipNode)
    (outer : Clip) :
    cache.prepareWith raster width height (node :: outer) =
      (some node.id, (ClipMasks.build raster width height (node :: outer) cache).2) := by
  rw [prepareWith, if_neg (by omega)]

theorem Holds.prepare (wide : 0 < width) (high : 0 < height) {clip : Clip}
    (holds : Holds raster width height seen cache) (consistent : Consistent (insert clip seen)) :
    Holds raster width height (insert clip seen)
      (cache.prepareWith raster width height clip).2 := by
  obtain ⟨-, kept⟩ := holds.build consistent
  cases clip with
  | nil => exact kept
  | cons node outer =>
      rw [prepareWith_cons wide high]
      exact kept

theorem holds_prepared (wide : 0 < width) (high : 0 < height) {clips : List Clip}
    (consistent : Consistent {clip | clip ∈ clips}) :
    Holds raster width height {clip | clip ∈ clips} (prepared raster width height clips) := by
  induction clips using List.reverseRecOn with
  | nil => exact holds_new
  | append_singleton before clip ih =>
      have latest : {other | other ∈ before ++ [clip]} = insert clip {other | other ∈ before} := by
        ext other
        simp [or_comm]
      rw [latest] at consistent ⊢
      rw [prepared_concat]
      have earlier := ih (consistent.mono fun part => part.mono (Set.subset_insert ..))
      exact earlier.prepare wide high consistent

/-- **Cached masks are the masks of their clips.** On a surface with pixels, whatever
consistent clips are prepared in whatever order, and whatever the rasteriser: the answer
is the identifier of the innermost region; under it, and under that of each ancestor,
lies the mask folded from the outermost region inwards; and the masks kept before are
still there. -/
theorem prepare_keeps_folded_masks (raster : Rasteriser) {width height : Nat} (wide : 0 < width)
    (high : 0 < height) {calls : List Clip} (consistent : Consistent {clip | clip ∈ calls})
    {before after : List Clip} {node : ClipNode} {outer : Clip}
    (call : calls = before ++ (node :: outer) :: after) :
    let cache := prepared raster width height before
    let (answer, later) := cache.prepareWith raster width height (node :: outer)
    answer = some node.id ∧
      (∀ inner ancestors, inner :: ancestors <:+ node :: outer →
        later.find? inner.id = some (Clip.mask raster width height (inner :: ancestors))) ∧
      ∀ id mask, cache.find? id = some mask → later.find? id = some mask := by
  intro cache
  subst call
  have upTo : Consistent (insert (node :: outer) {clip | clip ∈ before}) :=
    consistent.mono fun part => part.mono (by rintro clip (rfl | member) <;> simp_all)
  have earlier : Holds raster width height {clip | clip ∈ before} cache :=
    holds_prepared wide high (upTo.mono fun part => part.mono (Set.subset_insert ..))
  have kept := earlier.prepare wide high upTo
  rw [prepareWith_cons wide high] at kept ⊢
  refine ⟨rfl, fun inner ancestors behind => ?_, fun id mask found => ?_⟩
  · exact (kept inner.id _).2 ⟨inner, ancestors, Clip.part_insert.2 (.inl behind), rfl, rfl⟩
  · obtain ⟨other, further, part, same, own⟩ := (earlier id mask).1 found
    exact (kept id mask).2 ⟨other, further, part.mono (Set.subset_insert ..), same, own⟩

/-- Two siblings, their common ancestor and the first once more. The second sibling
starts from the mask that the first left for the ancestor. -/
theorem prepare_keeps_folded_masks_of_siblings :
    let raster : Rasteriser := fun width height _ _ =>
      .tabulate width height fun x _ => if x = 0 then 255 else 128
    let region (id : Nat) (mode : ClipMode) : ClipNode :=
      ⟨id, some ⟨[], ⟨0, 0, 1, 1⟩⟩, .identity, mode⟩
    let outer : Clip := [region 1 .intersect]
    let left := region 2 .difference :: outer
    let right := region 3 .intersect :: outer
    let (answer, later) := (prepared raster 2 1 [left]).prepareWith raster 2 1 right
    Consistent {clip | clip ∈ [left, right, outer, left]} ∧ answer = some 3 ∧
      later.find? 3 = some (Clip.mask raster 2 1 right) ∧
      later.find? 1 = some (Clip.mask raster 2 1 outer) ∧
      (∀ mask, (prepared raster 2 1 [left]).find? 2 = some mask → later.find? 2 = some mask) ∧
      (Clip.mask raster 2 1 right).bytes = [255, 64] := by
  intro raster region outer left right
  have consistent : Consistent {clip | clip ∈ [left, right, outer, left]} := by decide
  have call : [left, right, outer, left] = [left] ++ right :: [outer, left] := rfl
  obtain ⟨answer, own, earlier⟩ := prepare_keeps_folded_masks raster (by decide : 0 < 2)
    (by decide : 0 < 1) consistent call
  exact ⟨consistent, answer, own _ _ List.suffix_rfl, own _ [] (List.suffix_cons ..), earlier 2,
    by decide +kernel⟩

end ClipMasks

end ScenePlayer
