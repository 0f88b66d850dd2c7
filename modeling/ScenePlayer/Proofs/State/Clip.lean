import Mathlib.Data.List.Infix
import Mathlib.Data.Set.Insert
import ScenePlayer.State.DrawState

/-!
Clips and their identifiers. A clip is a region with its ancestors, and so is each of
its parts. Clips are consistent if an identifier, wherever it occurs in them, stands
for one region with the same ancestors: then a mask kept under it is the right one.
-/

namespace ScenePlayer

namespace Clip

/-- A region with its ancestors, in one of some clips. -/
def Part (seen : Set Clip) (node : ClipNode) (outer : Clip) : Prop :=
  ∃ clip ∈ seen, node :: outer <:+ clip

/-- Regions of one identifier are the same and have the same ancestors, wherever in the
clips they occur. -/
def Consistent (seen : Set Clip) : Prop :=
  ∀ ⦃node other : ClipNode⦄ ⦃outer further : Clip⦄, Part seen node outer →
    Part seen other further → node.id = other.id → node = other ∧ outer = further

variable {seen others : Set Clip} {node : ClipNode} {outer : Clip}

theorem Part.of_mem (member : node :: outer ∈ seen) : Part seen node outer :=
  ⟨_, member, List.suffix_rfl⟩

theorem Part.mono (more : seen ⊆ others) (part : Part seen node outer) :
    Part others node outer := by
  obtain ⟨clip, member, behind⟩ := part
  exact ⟨clip, more member, behind⟩

theorem part_insert {clip : Clip} :
    Part (insert clip seen) node outer ↔ node :: outer <:+ clip ∨ Part seen node outer := by
  constructor
  · rintro ⟨other, rfl | member, behind⟩
    · exact .inl behind
    · exact .inr ⟨other, member, behind⟩
  · rintro (behind | part)
    · exact ⟨clip, Set.mem_insert .., behind⟩
    · exact part.mono (Set.subset_insert ..)

theorem Consistent.mono (consistent : Consistent others)
    (fewer : ∀ {node outer}, Part seen node outer → Part others node outer) : Consistent seen :=
  fun _ _ _ _ left right same => consistent (fewer left) (fewer right) same

/-! ### Finitely many clips -/

/-- The regions of a clip, each with its ancestors. -/
def parts : Clip → List (ClipNode × Clip)
  | [] => []
  | node :: outer => (node, outer) :: parts outer

theorem mem_parts {clip : Clip} : (node, outer) ∈ clip.parts ↔ node :: outer <:+ clip := by
  induction clip with
  | nil => simp [parts]
  | cons first rest ih => simp [parts, ih, List.suffix_cons_iff]

theorem mem_flatMap_parts {clips : List Clip} :
    (node, outer) ∈ clips.flatMap parts ↔ Part {clip | clip ∈ clips} node outer := by
  simp [List.mem_flatMap, mem_parts, Part]

instance (clips : List Clip) : Decidable (Consistent {clip | clip ∈ clips}) :=
  decidable_of_iff
    (∀ left ∈ clips.flatMap parts, ∀ right ∈ clips.flatMap parts,
      left.1.id = right.1.id → left = right) <| by
    simp only [Prod.forall, mem_flatMap_parts, Prod.mk.injEq]
    exact ⟨fun same _ _ _ _ left right => same _ _ left _ _ right,
      fun same _ _ left _ _ right => same left right⟩

end Clip

end ScenePlayer
