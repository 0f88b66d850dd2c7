import ScenePlayer.Proofs.Paint.Coherence
import ScenePlayer.Proofs.Paint.View

/-!
Resolutions are current. Edits of the asset store, announced or not, resolutions
on any surface, ends of frames and clears may follow each other in any order. A
shader is then only ever given out for a source for which a surface has built it,
and that source is the one that the paint denotes by the history of edits: its own
gradient, or the very insertion that put the present payload under its kind and
identifier (`resolve_current`).
-/

namespace ScenePlayer

variable {σ S : Type}

/-- Requests made of surfaces, with their answers, latest first. -/
abbrev Requests (S : Type) : Type := List (ShaderSource × Option S)

namespace ShaderCache

/-- A builder that notes every request and its answer. -/
def noting (build : Builder σ S) : Builder (σ × Requests S) S := fun source state =>
  let (answer, surface) := build source state.1
  (answer, surface, (source, answer) :: state.2)

theorem records_noting (build : Builder σ S) :
    Records (noting build) fun state source answer => (source, answer) ∈ state.2 where
  noted _ _ := List.mem_cons_self
  kept _ _ _ _ earlier := List.mem_cons_of_mem _ earlier

/-- Noting changes neither answers nor caches nor surfaces. -/
def Agree (noted : Resolution (σ × Requests S) S) (plain : Resolution σ S) : Prop :=
  noted.1 = plain.1 ∧ noted.2.1 = plain.2.1 ∧ noted.2.2.1 = plain.2.2

theorem agree_resolve (build : Builder σ S) (assets : AssetStore) (paint : Paint)
    (cache : ShaderCache S) (surface : σ) (requests : Requests S) :
    Agree (cache.resolve (noting build) assets paint (surface, requests))
      (cache.resolve build assets paint surface) := by
  have shows : Shows Prod.fst (noting build) build := fun _ _ => rfl
  have same := shows.resolve assets paint cache (surface, requests)
  rw [same]
  exact ⟨rfl, rfl, rfl⟩

end ShaderCache

open ShaderCache (Builder noting)

/-- What may happen to a shader cache and the assets that it paints with. -/
inductive PaintEvent (σ S : Type) where
  | edit (edit : AssetEdit)
  | resolve (build : Builder σ S) (surface : σ) (paint : Paint)
  | invalidate (kind : AssetKind) (id : String)
  | endFrame
  | clear

/-- A shader cache, the edits of the assets so far, latest first, and all requests
made of surfaces. -/
structure PaintRun (S : Type) where
  cache : ShaderCache S
  history : List AssetEdit := []
  requests : Requests S := []

namespace PaintRun

variable (decoder : ImageDecoder)

def assets (run : PaintRun S) : AssetStore := .edited decoder run.history

def serve (run : PaintRun S) : PaintEvent σ S → PaintRun S
  | .edit edit => { run with history := edit :: run.history }
  | .resolve build surface paint =>
      let (_, cache, _, requests) :=
        run.cache.resolve (noting build) (run.assets decoder) paint (surface, run.requests)
      { run with cache, requests }
  | .invalidate kind id => { run with cache := (run.cache.invalidate kind id).2 }
  | .endFrame => { run with cache := run.cache.endFrame.2 }
  | .clear => { run with cache := run.cache.clear }

/-- The run of some events on a new cache and no assets. -/
def ofEvents (idleFrames : Nat) (events : List (PaintEvent σ S)) : PaintRun S :=
  events.foldl (serve decoder) { cache := { idleFrames } }

/-- The cache agrees with the assets of the moment and the requests so far, and
only payloads that were inserted have been asked for. -/
structure Sound (run : PaintRun S) : Prop where
  coherent : run.cache.Coherent (fun source answer => (source, answer) ∈ run.requests)
    (run.assets decoder)
  numbered : ∀ texture answer, (.texture texture, answer) ∈ run.requests →
    texture.stamp ≤ AssetEdit.insertions decoder run.history

variable {decoder}

/-- What a resolution asks for is stored, so it was inserted. -/
theorem Sound.numbered_resolve {run : PaintRun S} (sound : run.Sound decoder) (build : Builder σ S)
    (surface : σ) (paint : Paint) (texture : Texture) (answer : Option S)
    (asked : (.texture texture, answer) ∈
      (run.serve decoder (.resolve build surface paint)).requests) :
    texture.stamp ≤ AssetEdit.insertions decoder run.history := by
  have asked : (ShaderSource.texture texture, answer) ∈
      (run.cache.resolve (noting build) (run.assets decoder) paint
        (surface, run.requests)).2.2.2 := asked
  rcases ShaderCache.resolve_surface (noting build) (run.assets decoder) paint run.cache
    (surface, run.requests) with same | ⟨source, found, same⟩
  · rw [same] at asked
    exact sound.numbered texture answer asked
  · rw [same] at asked
    rcases List.mem_cons.1 asked with new | earlier
    · rw [← (Prod.mk.inj new).1] at found
      obtain ⟨kind, id, stored⟩ :
          ∃ kind id, (run.assets decoder).textureOf kind id = some texture := by
        cases paint with
        | colour colour => cases found
        | gradient gradient => cases found
        | image id =>
            obtain ⟨_, stored, ⟨⟩⟩ := Option.map_eq_some_iff.1 found
            exact ⟨.image, id, stored⟩
        | stream id =>
            obtain ⟨_, stored, ⟨⟩⟩ := Option.map_eq_some_iff.1 found
            exact ⟨.stream, id, stored⟩
      rw [← AssetStore.stamp_edited]
      exact sound.coherent.stored kind id texture stored
    · exact sound.numbered texture answer earlier

theorem Sound.serve {run : PaintRun S} (sound : run.Sound decoder) (event : PaintEvent σ S) :
    (run.serve decoder event).Sound decoder := by
  cases event with
  | edit edit =>
      refine ⟨sound.coherent.editAssets decoder edit, fun texture answer asked => ?_⟩
      have before := sound.numbered texture answer asked
      exact Nat.le_trans before (by rw [PaintRun.serve, AssetEdit.insertions_cons]; omega)
  | resolve build surface paint =>
      exact ⟨((ShaderCache.records_noting build).resolve (surface, run.requests)
        sound.coherent paint).1, sound.numbered_resolve build surface paint⟩
  | invalidate kind id => exact ⟨sound.coherent.invalidate kind id, sound.numbered⟩
  | endFrame => exact ⟨sound.coherent.endFrame, sound.numbered⟩
  | clear => exact ⟨sound.coherent.clear, sound.numbered⟩

theorem sound_ofEvents (idleFrames : Nat) (events : List (PaintEvent σ S)) :
    (ofEvents decoder idleFrames events).Sound decoder := by
  suffices ∀ run : PaintRun S, run.Sound decoder →
      (events.foldl (PaintRun.serve decoder) run).Sound decoder from
    this _ ⟨ShaderCache.coherent_new idleFrames, by rintro texture answer ⟨⟩⟩
  induction events with
  | nil => exact fun run sound => sound
  | cons first rest ih => exact fun run sound => ih _ (sound.serve first)

end PaintRun

/-! ### What a paint denotes -/

section Denotes

variable {decoder : ImageDecoder}

/-- The source that a paint denotes by a history of edits, latest first. A texture
is denoted by the last insertion under its kind and identifier. -/
inductive Denotes (decoder : ImageDecoder) (history : List AssetEdit) :
    Paint → ShaderSource → Prop where
  | gradient (gradient : Gradient) :
      Denotes decoder history (.gradient gradient) (.gradient gradient)
  | image {id : String} {picture : Picture} {number : Nat}
      (last : AssetEdit.lastInserted decoder .image id history = some (.image picture, number)) :
      Denotes decoder history (.image id) (.texture ⟨picture, number⟩)
  | stream {id : String} {picture : Picture} {number : Nat}
      (last : AssetEdit.lastInserted decoder .stream id history = some (.stream picture, number)) :
      Denotes decoder history (.stream id) (.texture ⟨picture, number⟩)

theorem denotes_of_source? {history : List AssetEdit} {paint : Paint} {source : ShaderSource}
    (found : (AssetStore.edited decoder history).source? paint = some source) :
    Denotes decoder history paint source := by
  cases paint with
  | colour colour => cases found
  | gradient gradient =>
      cases found
      exact .gradient gradient
  | image id =>
      obtain ⟨texture, stored, rfl⟩ := Option.map_eq_some_iff.1 found
      refine .image ?_
      rw [← AssetStore.held_edited, AssetStore.held, stored]
      rfl
  | stream id =>
      obtain ⟨texture, stored, rfl⟩ := Option.map_eq_some_iff.1 found
      refine .stream ?_
      rw [← AssetStore.held_edited, AssetStore.held, stored]
      rfl

/-- Different paints denote different sources; an image and a stream of one
identifier do, too. -/
theorem Denotes.unique {history : List AssetEdit} {paint other : Paint} {source : ShaderSource}
    (left : Denotes decoder history paint source) (right : Denotes decoder history other source) :
    paint = other := by
  cases left with
  | gradient gradient =>
      cases right
      rfl
  | image last =>
      cases right with
      | image same => rw [(AssetEdit.lastInserted_unique last same).2]
      | stream same => cases (AssetEdit.lastInserted_unique last same).1
  | stream last =>
      cases right with
      | image same => cases (AssetEdit.lastInserted_unique last same).1
      | stream same => rw [(AssetEdit.lastInserted_unique last same).2]

/-- If an edit changes the source that a paint denotes, the source is the payload
that the edit inserts. -/
theorem Denotes.of_edit {edit : AssetEdit} {history : List AssetEdit} {paint : Paint}
    {source : ShaderSource} (after : Denotes decoder (edit :: history) paint source)
    (before : ¬ Denotes decoder history paint source) :
    ∃ picture, source = .texture ⟨picture, AssetEdit.insertions decoder history + 1⟩ := by
  cases after with
  | gradient gradient => exact absurd (.gradient gradient) before
  | image last =>
      rcases AssetEdit.lastInserted_cons last with ⟨asset, -, -, ⟨⟩⟩ | same
      · exact ⟨_, rfl⟩
      · exact absurd (.image same) before
  | stream last =>
      rcases AssetEdit.lastInserted_cons last with ⟨asset, -, -, ⟨⟩⟩ | same
      · exact ⟨_, rfl⟩
      · exact absurd (.stream same) before

theorem textureOf_edited_eq_none_iff (history : List AssetEdit) (kind : TextureKind)
    (id : String) : (AssetStore.edited decoder history).textureOf kind id = none ↔
      AssetEdit.lastInserted decoder kind.asset id history = none := by
  rw [← AssetStore.held_edited]
  cases kind <;> exact Option.map_eq_none_iff.symm

/-- What the answer to a resolution has to be by the edits of the assets and the
requests made of surfaces, this resolution's included. -/
def CurrentAnswer (decoder : ImageDecoder) (history : List AssetEdit) (requests : Requests S)
    (paint : Paint) : Except ResolveError (Ink S) → Prop
  | .ok (.solid colour) => paint = .colour colour
  | .ok (.shader shader) =>
      ∃ source, Denotes decoder history paint source ∧ (source, some shader) ∈ requests
  | .error .unsupported =>
      ∃ source, Denotes decoder history paint source ∧ (source, none) ∈ requests
  | .error (.missingAsset kind id) =>
      (paint = .image id ∧ kind = .image ∨ paint = .stream id ∧ kind = .stream) ∧
        AssetEdit.lastInserted decoder kind id history = none

theorem currentAnswer_of_answers {history : List AssetEdit} {requests : Requests S}
    {paint : Paint} {answer : Except ResolveError (Ink S)}
    (answers : ShaderCache.Answers (fun source answer => (source, answer) ∈ requests)
      (.edited decoder history) paint answer) :
    CurrentAnswer decoder history requests paint answer := by
  match answer, answers with
  | .ok (.solid _), isColour => exact isColour
  | .ok (.shader _), ⟨source, found, built⟩ => exact ⟨source, denotes_of_source? found, built⟩
  | .error .unsupported, ⟨source, found, declined⟩ =>
      exact ⟨source, denotes_of_source? found, declined⟩
  | .error (.missingAsset kind id), ⟨named, absent⟩ =>
      refine ⟨named, ?_⟩
      rcases named with ⟨rfl, rfl⟩ | ⟨rfl, rfl⟩
      · exact (textureOf_edited_eq_none_iff history .image id).1 (Option.map_eq_none_iff.1 absent)
      · exact (textureOf_edited_eq_none_iff history .stream id).1 (Option.map_eq_none_iff.1 absent)

end Denotes

/-- **Every resolution is current.** After any events, a resolution answers with a
shader only if a surface has built it for the source that the paint denotes at
that moment. A paint by an asset is answered with that asset as missing exactly if
nothing is stored under its kind and identifier. No two paints denote the same
source, and a source that an edit makes a paint denote has never been asked for. -/
theorem resolve_current (decoder : ImageDecoder) (idleFrames : Nat)
    (events : List (PaintEvent σ S)) (build : Builder σ S) (surface : σ) (paint : Paint) :
    let run := PaintRun.ofEvents decoder idleFrames events
    let answer := (run.cache.resolve build (run.assets decoder) paint surface).1
    CurrentAnswer decoder run.history
        (run.serve decoder (.resolve build surface paint)).requests paint answer ∧
      (∀ kind id, ShaderCache.PaintsWith paint kind id →
        (answer = .error (.missingAsset kind.asset id) ↔
          AssetEdit.lastInserted decoder kind.asset id run.history = none)) ∧
      (∀ other source, Denotes decoder run.history paint source →
        Denotes decoder run.history other source → paint = other) ∧
      ∀ edit source, Denotes decoder (edit :: run.history) paint source →
        ¬ Denotes decoder run.history paint source → ∀ answer, (source, answer) ∉ run.requests := by
  intro run answer
  have sound : run.Sound decoder := PaintRun.sound_ofEvents idleFrames events
  have answers : ShaderCache.Answers
      (fun source answer =>
        (source, answer) ∈ (run.serve decoder (.resolve build surface paint)).requests)
      (run.assets decoder) paint
      (run.cache.resolve (noting build) (run.assets decoder) paint (surface, run.requests)).1 :=
    ((ShaderCache.records_noting build).resolve (surface, run.requests) sound.coherent paint).2
  rw [(ShaderCache.agree_resolve build (run.assets decoder) paint run.cache surface run.requests).1]
    at answers
  refine ⟨currentAnswer_of_answers answers, fun kind id paints => ?_,
    fun other source left right => left.unique right, fun edit source after before => ?_⟩
  · rw [answers.missing_iff paints]
    exact textureOf_edited_eq_none_iff run.history kind id
  · obtain ⟨picture, rfl⟩ := after.of_edit before
    intro earlier asked
    exact absurd (sound.numbered _ earlier asked) (Nat.not_succ_le_self _)

end ScenePlayer
