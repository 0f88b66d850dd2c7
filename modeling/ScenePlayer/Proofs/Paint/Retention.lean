import ScenePlayer.Proofs.History
import ScenePlayer.Proofs.Paint.Currency
import ScenePlayer.Proofs.Paint.Entries

/-!
How long shaders are kept. There is an entry under a key if a paint of this key has been
resolved with success, and since the last time that this happened its shader was not
dropped and its time is not over: at most `idleFrames + 1` frames have ended since
(`shader_retention_is_exact`). The end of a frame drops the entries whose time is over
and no others.

The invariant is `PaintRun.Faithful`: what an entry says of its last use and of its payload
is what the history of events says. Every event keeps it (`PaintRun.faithful_ofEvents`).
-/

namespace ScenePlayer

variable {σ S : Type}

/-! ### What a history says -/

namespace PaintEvent

def isEnd : PaintEvent σ S → Bool
  | endFrame => true
  | _ => false

/-- A resolution of a paint under a key that succeeds after `earlier` events. -/
def Uses (decoder : ImageDecoder) (idleFrames : Nat) (key : ShaderKey)
    (earlier : List (PaintEvent σ S)) :
    PaintEvent σ S → Prop
  | resolve build surface paint =>
      let run := PaintRun.ofEvents decoder idleFrames earlier
      paint.shaderKey? = some key ∧
        (run.cache.resolve build (run.assets decoder) paint surface).1.isOk = true
  | _ => False

/-- A resolution that finds the shader under a key stale: since its last use, its paint has
come to denote another source. -/
def FindsStale (decoder : ImageDecoder) (idleFrames : Nat) (key : ShaderKey)
    (earlier : List (PaintEvent σ S)) :
    PaintEvent σ S → Prop
  | resolve _ _ paint =>
      paint.shaderKey? = some key ∧
        ∃ before use, LastOf (Uses decoder idleFrames key) before use earlier ∧
          ((PaintRun.ofEvents decoder idleFrames earlier).assets decoder).source? paint ≠
            ((PaintRun.ofEvents decoder idleFrames before).assets decoder).source? paint
  | _ => False

/-- The shader under a key is invalidated, cleared or found stale. -/
def Drops (decoder : ImageDecoder) (idleFrames : Nat) (key : ShaderKey)
    (earlier : List (PaintEvent σ S))
    (event : PaintEvent σ S) : Prop :=
  (∃ kind id, event = invalidate kind id ∧ key.asset? = some (kind, id)) ∨ event = clear ∨
    event.FindsStale decoder idleFrames key earlier

/-- Whether an event decides about the shader under a key. -/
def Decides (decoder : ImageDecoder) (idleFrames : Nat) (key : ShaderKey)
    (earlier : List (PaintEvent σ S))
    (event : PaintEvent σ S) : Prop :=
  event.Uses decoder idleFrames key earlier ∨ event.Drops decoder idleFrames key earlier

/-- Only resolutions under a key, invalidations of its asset and clears decide about it. -/
theorem not_decides {decoder : ImageDecoder} {idleFrames : Nat} {key : ShaderKey}
    {earlier : List (PaintEvent σ S)}
    {event : PaintEvent σ S}
    (resolves : ∀ build surface paint, event = resolve build surface paint →
      paint.shaderKey? ≠ some key)
    (invalidates : ∀ kind id, event = invalidate kind id → key.asset? ≠ some (kind, id))
    (clears : event ≠ clear) : ¬ event.Decides decoder idleFrames key earlier := by
  rintro (uses | ⟨kind, id, named, isAsset⟩ | isClear | stale)
  · cases event with
    | resolve build surface paint => exact resolves build surface paint rfl uses.1
    | _ => exact uses
  · exact invalidates kind id named isAsset
  · exact clears isClear
  · cases event with
    | resolve build surface paint => exact resolves build surface paint rfl stale.1
    | _ => exact stale

end PaintEvent

namespace PaintRun

/-- How many frames have ended. -/
def ends (events : List (PaintEvent σ S)) : Nat := events.countP PaintEvent.isEnd

/-- The shader under a key was used right after `earlier`, and it was neither used again nor
dropped since. -/
def LastUsed (decoder : ImageDecoder) (idleFrames : Nat) (key : ShaderKey)
    (earlier events : List (PaintEvent σ S)) :
    Prop :=
  ∃ use, LastOf (PaintEvent.Decides decoder idleFrames key) earlier use events ∧
    use.Uses decoder idleFrames key earlier

variable {decoder : ImageDecoder} {idleFrames : Nat} {key : ShaderKey}
  {earlier events : List (PaintEvent σ S)}
  {new : PaintEvent σ S}

theorem not_lastUsed_nil : ¬ LastUsed decoder idleFrames key earlier ([] : List (PaintEvent σ S)) :=
  fun ⟨_, last, _⟩ => not_lastOf_nil last

theorem lastUsed_concat : LastUsed decoder idleFrames key earlier (events ++ [new]) ↔
    (earlier = events ∧ new.Uses decoder idleFrames key events) ∨
      (¬ new.Decides decoder idleFrames key events ∧
        LastUsed decoder idleFrames key earlier events) := by
  constructor
  · rintro ⟨use, last, uses⟩
    rcases lastOf_concat.1 last with ⟨rfl, rfl, -⟩ | ⟨indifferent, last⟩
    · exact .inl ⟨rfl, uses⟩
    · exact .inr ⟨indifferent, use, last, uses⟩
  · rintro (⟨rfl, uses⟩ | ⟨indifferent, use, last, uses⟩)
    · exact ⟨new, lastOf_concat.2 (.inl ⟨rfl, rfl, .inl uses⟩), uses⟩
    · exact ⟨use, lastOf_concat.2 (.inr ⟨indifferent, last⟩), uses⟩

theorem ends_concat (events : List (PaintEvent σ S)) (new : PaintEvent σ S) :
    ends (events ++ [new]) = ends events + if new.isEnd then 1 else 0 :=
  countP_concat PaintEvent.isEnd events new

theorem ends_le_of_prefix (before : earlier <+: events) : ends earlier ≤ ends events :=
  before.sublist.countP_le

theorem LastUsed.ends_le (lastUsed : LastUsed decoder idleFrames key earlier events) :
    ends earlier ≤ ends events := by
  obtain ⟨use, last, -⟩ := lastUsed
  exact ends_le_of_prefix ((List.prefix_append _ _).trans last.happened)

/-! ### Runs -/

theorem ofEvents_concat (idleFrames : Nat) (events : List (PaintEvent σ S))
    (new : PaintEvent σ S) :
    ofEvents decoder idleFrames (events ++ [new]) =
      (ofEvents decoder idleFrames events).serve decoder new := by
  rw [ofEvents, List.foldl_append]
  rfl

/-- Events other than the end of a frame leave the pace of the cache. -/
theorem paced_serve (decoder : ImageDecoder) (run : PaintRun S) {event : PaintEvent σ S}
    (goesOn : event.isEnd = false) :
    run.cache.Paced (run.serve decoder event).cache := by
  cases event with
  | edit edit => exact ⟨rfl, rfl, rfl⟩
  | resolve build surface paint => exact ShaderCache.paced_resolve ..
  | invalidate kind id => exact ShaderCache.paced_invalidate ..
  | endFrame => cases goesOn
  | clear => exact ⟨rfl, rfl, rfl⟩

/-- The limit stays as it is, and the number of the frame is that of ended frames. -/
theorem pace_ofEvents (idleFrames : Nat) (events : List (PaintEvent σ S)) :
    (ofEvents decoder idleFrames events).cache.idleFrames = idleFrames ∧
      (ofEvents decoder idleFrames events).cache.frame = ends events := by
  induction events using List.reverseRecOn with
  | nil => exact ⟨rfl, rfl⟩
  | append_singleton events new ih =>
      rw [ofEvents_concat, ends_concat]
      cases goesOn : new.isEnd with
      | false =>
          have paced := paced_serve decoder (ofEvents decoder idleFrames events) goesOn
          exact ⟨paced.idleFrames.trans ih.1, paced.frame.trans ih.2⟩
      | true =>
          cases new with
          | endFrame => exact ⟨ih.1, congrArg Nat.succ ih.2⟩
          | _ => cases goesOn

/-- An entry is still live if at most the number of idle frames have ended since its last
use. -/
theorem isLive_ofEvents (idleFrames : Nat) (events : List (PaintEvent σ S)) (frame : Nat) :
    (ofEvents decoder idleFrames events).cache.isLive frame =
      decide (ends events ≤ frame + idleFrames) := by
  obtain ⟨limit, now⟩ := pace_ofEvents idleFrames events
  rw [ShaderCache.isLive, limit, now, decide_eq_decide]
  exact Nat.sub_le_iff_le_add'

/-- The entry under a key after a resolution. -/
theorem entryAt?_resolved (decoder : ImageDecoder) (run : PaintRun S)
    (build : ShaderCache.Builder σ S) (surface : σ) (paint : Paint) (key : ShaderKey) :
    (run.serve decoder (.resolve build surface paint)).cache.entryAt? key =
      if paint.shaderKey? = some key then
        if (run.cache.resolve build (run.assets decoder) paint surface).1.isOk then
          some (run.cache.frame, (run.assets decoder).stampOf key)
        else none
      else run.cache.entryAt? key := by
  have same := (ShaderCache.agree_resolve build (run.assets decoder) paint run.cache
    surface run.requests).1
  rw [← same]
  exact ShaderCache.entryAt?_resolve ..

/-! ### What a history leaves -/

/-- Paints that denote the same source are painted with the same payload. -/
theorem stampOf_congr {assets other : AssetStore} {paint : Paint}
    (isKey : paint.shaderKey? = some key) (same : assets.source? paint = other.source? paint) :
    assets.stampOf key = other.stampOf key := by
  have textures := Option.map_injective fun _ _ => ShaderSource.texture.inj
  cases paint with
  | colour colour => cases isKey
  | gradient gradient =>
      cases isKey
      rfl
  | image id =>
      cases isKey
      exact congrArg (Option.map Texture.stamp) (textures same)
  | stream id =>
      cases isKey
      exact congrArg (Option.map Texture.stamp) (textures same)

/-- What an entry has to say by the history of events: when it was used last, which is at
most `idleFrames + 1` ends of frames ago, and which payload was stored then. -/
def Retains (decoder : ImageDecoder) (idleFrames : Nat) (key : ShaderKey)
    (events : List (PaintEvent σ S)) (entry : Nat × Option Nat) : Prop :=
  ∃ earlier, LastUsed decoder idleFrames key earlier events ∧
    ends events ≤ ends earlier + (idleFrames + 1) ∧
    entry = (ends earlier, ((ofEvents decoder idleFrames earlier).assets decoder).stampOf key)

theorem retains_of_uses (goesOn : new.isEnd = false) (uses : new.Uses decoder idleFrames key events)
    (entry : Nat × Option Nat) : Retains decoder idleFrames key (events ++ [new]) entry ↔
      entry = (ends events, ((ofEvents decoder idleFrames events).assets decoder).stampOf key) := by
  have same : ends (events ++ [new]) = ends events := by
    rw [ends_concat, goesOn]
    rfl
  constructor
  · rintro ⟨earlier, lastUsed, -, rfl⟩
    rcases lastUsed_concat.1 lastUsed with ⟨rfl, -⟩ | ⟨indifferent, -⟩
    · rfl
    · exact absurd (.inl uses) indifferent
  · rintro rfl
    exact ⟨events, lastUsed_concat.2 (.inl ⟨rfl, uses⟩), same ▸ Nat.le_add_right _ _, rfl⟩

theorem not_retains_of_drops (idle : ¬ new.Uses decoder idleFrames key events)
    (drops : new.Drops decoder idleFrames key events) (entry : Nat × Option Nat) :
    ¬ Retains decoder idleFrames key (events ++ [new]) entry := by
  rintro ⟨earlier, lastUsed, -, -⟩
  rcases lastUsed_concat.1 lastUsed with ⟨rfl, uses⟩ | ⟨indifferent, -⟩
  · exact idle uses
  · exact indifferent (.inr drops)

theorem lastUsed_of_indifferent (indifferent : ¬ new.Decides decoder idleFrames key events) :
    LastUsed decoder idleFrames key earlier (events ++ [new]) ↔
      LastUsed decoder idleFrames key earlier events := by
  rw [lastUsed_concat]
  exact ⟨fun | .inl ⟨_, uses⟩ => absurd (.inl uses) indifferent | .inr ⟨_, lastUsed⟩ => lastUsed,
    fun lastUsed => .inr ⟨indifferent, lastUsed⟩⟩

theorem retains_of_indifferent (goesOn : new.isEnd = false)
    (indifferent : ¬ new.Decides decoder idleFrames key events) (entry : Nat × Option Nat) :
    Retains decoder idleFrames key (events ++ [new]) entry ↔
      Retains decoder idleFrames key events entry := by
  simp only [Retains, lastUsed_of_indifferent indifferent, ends_concat, goesOn]
  rfl

/-- When a frame ends, the entries stay whose last use is recent enough. -/
theorem retains_endFrame (idleFrames : Nat) (key : ShaderKey) (events : List (PaintEvent σ S))
    (entry : Nat × Option Nat) : Retains decoder idleFrames key (events ++ [.endFrame]) entry ↔
      Retains decoder idleFrames key events entry ∧ ends events ≤ entry.1 + idleFrames := by
  have indifferent :
      ¬ (PaintEvent.endFrame : PaintEvent σ S).Decides decoder idleFrames key events :=
    PaintEvent.not_decides nofun nofun nofun
  have one : ends (events ++ [.endFrame]) = ends events + 1 := ends_concat events .endFrame
  simp only [Retains, lastUsed_of_indifferent indifferent, one]
  constructor
  · rintro ⟨earlier, lastUsed, recent, rfl⟩
    exact ⟨⟨earlier, lastUsed, by omega, rfl⟩, Nat.le_of_succ_le_succ recent⟩
  · rintro ⟨⟨earlier, lastUsed, -, rfl⟩, recent⟩
    exact ⟨earlier, lastUsed, Nat.succ_le_succ recent, rfl⟩

/-- The entry under a key is what the history says that is retained. -/
def Faithful (decoder : ImageDecoder) (idleFrames : Nat) (key : ShaderKey)
    (events : List (PaintEvent σ S)) : Prop :=
  ∀ entry, (ofEvents decoder idleFrames events).cache.entryAt? key = some entry ↔
    Retains decoder idleFrames key events entry

theorem faithful_nil (decoder : ImageDecoder) (idleFrames : Nat) (key : ShaderKey) :
    Faithful decoder idleFrames key ([] : List (PaintEvent σ S)) := by
  intro entry
  have vacant :
      (ofEvents decoder idleFrames ([] : List (PaintEvent σ S))).cache.entryAt? key = none :=
    ShaderCache.entryAt?_clear { idleFrames } key
  rw [vacant]
  exact ⟨nofun, fun ⟨_, lastUsed, _⟩ => absurd lastUsed not_lastUsed_nil⟩

theorem faithful_of_drops
    (gone : (ofEvents decoder idleFrames (events ++ [new])).cache.entryAt? key = none)
    (idle : ¬ new.Uses decoder idleFrames key events)
    (drops : new.Drops decoder idleFrames key events) :
    Faithful decoder idleFrames key (events ++ [new]) := by
  intro entry
  rw [gone]
  exact ⟨nofun, fun retains => absurd retains (not_retains_of_drops idle drops entry)⟩

theorem Faithful.indifferent (faithful : Faithful decoder idleFrames key events)
    (goesOn : new.isEnd = false) (indifferent : ¬ new.Decides decoder idleFrames key events)
    (same : (ofEvents decoder idleFrames (events ++ [new])).cache.entryAt? key =
      (ofEvents decoder idleFrames events).cache.entryAt? key) :
    Faithful decoder idleFrames key (events ++ [new]) := by
  intro entry
  rw [same, retains_of_indifferent goesOn indifferent]
  exact faithful entry

/-- A resolution that fails and does not find a stale shader finds none. -/
theorem Faithful.not_retains_of_fails (faithful : Faithful decoder idleFrames key events)
    (build : ShaderCache.Builder σ S) (surface : σ) {paint : Paint}
    (isKey : paint.shaderKey? = some key)
    (fails : ¬ ((ofEvents decoder idleFrames events).cache.resolve build
      ((ofEvents decoder idleFrames events).assets decoder) paint surface).1.isOk = true)
    (entry : Nat × Option Nat) :
    ¬ Retains decoder idleFrames key (events ++ [.resolve build surface paint]) entry := by
  rintro ⟨earlier, lastUsed, recent, -⟩
  rcases lastUsed_concat.1 lastUsed with ⟨rfl, uses⟩ | ⟨indifferent, lastUsed⟩
  · exact fails uses.2
  · obtain ⟨use, last, uses⟩ := lastUsed
    -- Were the source another one, the shader would be stale, and the event would decide.
    have current : ((ofEvents decoder idleFrames events).assets decoder).source? paint =
        ((ofEvents decoder idleFrames earlier).assets decoder).source? paint := by
      by_contra changed
      have stillLast := last.weaken uses fun _ _ => .inl
      exact indifferent (.inr (.inr (.inr ⟨isKey, earlier, use, stillLast, changed⟩)))
    have goesOn : ends (events ++ [.resolve build surface paint]) = ends events :=
      ends_concat events _
    have found := (faithful _).2 ⟨earlier, ⟨use, last, uses⟩, goesOn ▸ recent, rfl⟩
    rw [← stampOf_congr isKey current] at found
    exact fails (ShaderCache.isOk_resolve isKey found build surface)

theorem Faithful.resolve (faithful : Faithful decoder idleFrames key events)
    (build : ShaderCache.Builder σ S) (surface : σ) (paint : Paint) :
    Faithful decoder idleFrames key (events ++ [.resolve build surface paint]) := by
  have resolved :=
    entryAt?_resolved decoder (ofEvents decoder idleFrames events) build surface paint key
  rw [← ofEvents_concat] at resolved
  by_cases isKey : paint.shaderKey? = some key
  · rw [if_pos isKey] at resolved
    intro entry
    rw [resolved]
    split
    · rename_i succeeds
      have uses : (PaintEvent.resolve build surface paint).Uses decoder idleFrames key events :=
        ⟨isKey, succeeds⟩
      rw [retains_of_uses rfl uses, (pace_ofEvents idleFrames events).2, Option.some_inj, eq_comm]
    · rename_i fails
      exact ⟨nofun, fun retains =>
        absurd retains (faithful.not_retains_of_fails build surface isKey fails entry)⟩
  · rw [if_neg isKey] at resolved
    refine faithful.indifferent rfl (PaintEvent.not_decides ?_ nofun nofun) resolved
    rintro _ _ _ ⟨⟩
    exact isKey

theorem Faithful.invalidate (faithful : Faithful decoder idleFrames key events) (kind : AssetKind)
    (id : String) : Faithful decoder idleFrames key (events ++ [.invalidate kind id]) := by
  have dropped := (ofEvents decoder idleFrames events).cache.entryAt?_invalidate kind id key
  have after : (ofEvents decoder idleFrames (events ++ [.invalidate kind id])).cache =
      ((ofEvents decoder idleFrames events).cache.invalidate kind id).2 := by
    rw [ofEvents_concat]
    rfl
  rw [← after] at dropped
  by_cases named : key.asset? = some (kind, id)
  · rw [if_pos named] at dropped
    exact faithful_of_drops dropped (fun uses => uses) (.inl ⟨kind, id, rfl, named⟩)
  · rw [if_neg named] at dropped
    refine faithful.indifferent rfl (PaintEvent.not_decides nofun ?_ nofun) dropped
    rintro _ _ ⟨⟩
    exact named

theorem Faithful.endFrame (faithful : Faithful decoder idleFrames key events) :
    Faithful decoder idleFrames key (events ++ [.endFrame]) := by
  intro entry
  have swept := (ofEvents decoder idleFrames events).cache.entryAt?_endFrame key
  have after : (ofEvents decoder idleFrames (events ++ [.endFrame])).cache =
      (ofEvents decoder idleFrames events).cache.endFrame.2 := by
    rw [ofEvents_concat]
    rfl
  rw [after, swept, Option.filter_eq_some_iff, faithful entry, isLive_ofEvents,
    decide_eq_true_iff, retains_endFrame]

/-- After any events, entries are what the history says. -/
theorem faithful_ofEvents (decoder : ImageDecoder) (idleFrames : Nat) (key : ShaderKey)
    (events : List (PaintEvent σ S)) :
    Faithful decoder idleFrames key events := by
  induction events using List.reverseRecOn with
  | nil => exact faithful_nil decoder idleFrames key
  | append_singleton events new ih =>
      cases new with
      | edit edit =>
          refine ih.indifferent rfl (PaintEvent.not_decides nofun nofun nofun) ?_
          rw [ofEvents_concat]
          rfl
      | resolve build surface paint => exact ih.resolve build surface paint
      | invalidate kind id => exact ih.invalidate kind id
      | endFrame => exact ih.endFrame
      | clear =>
          refine faithful_of_drops ?_ (fun uses => uses) (.inr (.inl rfl))
          rw [ofEvents_concat]
          exact ShaderCache.entryAt?_clear ..

theorem lastUse?_ofEvents (idleFrames : Nat) (key : ShaderKey) (events : List (PaintEvent σ S))
    (frame : Nat) : (ofEvents decoder idleFrames events).cache.lastUse? key = some frame ↔
      ∃ earlier, LastUsed decoder idleFrames key earlier events ∧
        ends events ≤ ends earlier + (idleFrames + 1) ∧ frame = ends earlier := by
  have faithful := faithful_ofEvents decoder idleFrames key events
  rw [ShaderCache.lastUse?, Option.map_eq_some_iff]
  constructor
  · rintro ⟨entry, found, rfl⟩
    obtain ⟨earlier, lastUsed, recent, rfl⟩ := (faithful entry).1 found
    exact ⟨earlier, lastUsed, recent, rfl⟩
  · rintro ⟨earlier, lastUsed, recent, rfl⟩
    exact ⟨_, (faithful _).2 ⟨earlier, lastUsed, recent, rfl⟩, rfl⟩

/-! ### The end of a frame -/

/-- The end of a frame drops an entry exactly if its time is up. -/
theorem dropped_iff (idleFrames : Nat) (key : ShaderKey) (events : List (PaintEvent σ S)) :
    key ∈ (ofEvents decoder idleFrames events).cache.keys ∧
        (ofEvents decoder idleFrames events).cache.endFrame.2.entryAt? key = none ↔
      ∃ earlier, LastUsed decoder idleFrames key earlier events ∧
        ends events = ends earlier + (idleFrames + 1) := by
  rw [ShaderCache.mem_keys, Option.isSome_iff_exists, ShaderCache.entryAt?_endFrame]
  simp only [isLive_ofEvents]
  constructor
  · rintro ⟨⟨entry, found⟩, dropped⟩
    rw [found, Option.filter_eq_none_iff] at dropped
    obtain ⟨earlier, lastUsed, recent, rfl⟩ :=
      (faithful_ofEvents decoder idleFrames key events _).1 found
    have late : ¬ ends events ≤ ends earlier + idleFrames := by simpa using dropped _ rfl
    exact ⟨earlier, lastUsed, by omega⟩
  · rintro ⟨earlier, lastUsed, due⟩
    have found := (faithful_ofEvents decoder idleFrames key events _).2
      ⟨earlier, lastUsed, Nat.le_of_eq due, rfl⟩
    refine ⟨⟨_, found⟩, ?_⟩
    rw [found, Option.filter_some, if_neg]
    simp only [decide_eq_true_eq]
    omega

/-- A shader that was used in the frame that ends is not dropped. -/
theorem lastUse?_endFrame_of_used {use : PaintEvent σ S} (happened : earlier ++ [use] <+: events)
    (uses : use.Uses decoder idleFrames key earlier) (inFrame : ends events = ends earlier) :
    (ofEvents decoder idleFrames events).cache.endFrame.2.lastUse? key =
      (ofEvents decoder idleFrames events).cache.lastUse? key := by
  rw [ShaderCache.lastUse?, ShaderCache.lastUse?, ShaderCache.entryAt?_endFrame]
  cases found : (ofEvents decoder idleFrames events).cache.entryAt? key with
  | none => rfl
  | some entry =>
      obtain ⟨later, ⟨lastUse, last, _⟩, -, rfl⟩ :=
        (faithful_ofEvents decoder idleFrames key events entry).1 found
      have notBefore : ends earlier ≤ ends later :=
        ends_le_of_prefix (last.prefix_of_matters happened (.inl uses))
      have live : (ofEvents decoder idleFrames events).cache.isLive (ends later) = true := by
        rw [isLive_ofEvents, decide_eq_true_iff]
        omega
      rw [Option.filter_some, if_pos live]

end PaintRun

open PaintRun in
/-- **Retention is exact.** After any events, there is an entry under a key if and only if a
paint of this key has been resolved with success, and since the last time its shader was
neither invalidated nor cleared nor found stale and at most `idleFrames + 1` frames have
ended; it was last used in the frame of that resolution. The end of a frame answers with
the number of keys whose time is up at that moment, and adds it to the evictions, which
nothing else changes. No last use is ahead of the number of the frame, and what was used in
a frame is not dropped at the end of it. -/
theorem shader_retention_is_exact (decoder : ImageDecoder) (idleFrames : Nat)
    (events : List (PaintEvent σ S)) :
    let run := PaintRun.ofEvents decoder idleFrames events
    (∀ key frame, run.cache.lastUse? key = some frame ↔
      ∃ earlier, LastUsed decoder idleFrames key earlier events ∧
        ends events ≤ ends earlier + (idleFrames + 1) ∧ frame = ends earlier) ∧
    (∃ due : List ShaderKey, due.Nodup ∧
      (∀ key, key ∈ due ↔ ∃ earlier, LastUsed decoder idleFrames key earlier events ∧
        ends events = ends earlier + (idleFrames + 1)) ∧
      run.cache.endFrame.1 = due.length ∧
      (run.serve decoder (.endFrame : PaintEvent σ S)).cache.evictions =
        run.cache.evictions + due.length) ∧
    (∀ event : PaintEvent σ S, event.isEnd = false →
      (run.serve decoder event).cache.evictions = run.cache.evictions) ∧
    (∀ key frame, run.cache.lastUse? key = some frame → frame ≤ run.cache.frame) ∧
    ∀ key earlier use, earlier ++ [use] <+: events → use.Uses decoder idleFrames key earlier →
      ends events = ends earlier →
        (run.serve decoder (.endFrame : PaintEvent σ S)).cache.lastUse? key =
          run.cache.lastUse? key := by
  intro run
  refine ⟨fun key frame => lastUse?_ofEvents idleFrames key events frame, ?_,
    fun event goesOn => (paced_serve decoder run goesOn).evictions, fun key frame found => ?_,
    fun key earlier use happened uses inFrame => lastUse?_endFrame_of_used happened uses inFrame⟩
  · have count := ShaderCache.endFrame_eq_length run.cache
    refine ⟨_, (ShaderCache.nodup_keys run.cache).filter _, fun key => ?_, count,
      congrArg (run.cache.evictions + ·) count⟩
    rw [List.mem_filter, Option.isNone_iff_eq_none]
    exact dropped_iff idleFrames key events
  · obtain ⟨earlier, lastUsed, -, rfl⟩ := (lastUse?_ofEvents ..).1 found
    rw [(pace_ofEvents idleFrames events).2]
    exact lastUsed.ends_le

/-- With a limit of one, a shader outlives two ends of frames and falls at the third. -/
example :
    let build : ShaderCache.Builder Unit Unit := fun _ surface => (some (), surface)
    let events : List (PaintEvent Unit Unit) :=
      [.edit (.insert "tile" (.image ⟨1, 1, #[.clear]⟩)), .resolve build () (.image "tile"),
        .endFrame, .endFrame]
    let cache := (PaintRun.ofEvents (fun _ => .error []) 1 events).cache
    cache.lastUse? (.texture .image "tile") = some 0 ∧ cache.endFrame.1 = 1 ∧
      cache.endFrame.2.lastUse? (.texture .image "tile") = none := by decide

end ScenePlayer
