import Mathlib.Data.List.Induction

/-!
Histories, oldest event first, and the last event of a history that matters
(`LastOf`). Whether an event matters may depend on the events before it. A history
that goes on by one event has that event as its last one, if it matters, and else the
one that it had before (`lastOf_concat`). So what each event that matters decides anew
was decided by the last one (`holds_iff_lastOf`).
-/

namespace ScenePlayer

variable {ε : Type} {matters : List ε → ε → Prop} {earlier history : List ε} {event new : ε}

/-- Of the events in a history that matter, `event` came last, right after `earlier`. -/
structure LastOf (matters : List ε → ε → Prop) (earlier : List ε) (event : ε)
    (history : List ε) : Prop where
  happened : earlier ++ [event] <+: history
  important : matters earlier event
  last : ∀ before other, before ++ [other] <+: history → matters before other →
    before.length ≤ earlier.length

theorem prefix_concat_cases {before : List ε} {other : ε} :
    before ++ [other] <+: history ++ [new] ↔
      before = history ∧ other = new ∨ before ++ [other] <+: history := by
  rw [List.prefix_concat_iff, List.append_singleton_inj]

theorem length_lt_of_happened (happened : earlier ++ [event] <+: history) :
    earlier.length < history.length := by
  have shorter := happened.length_le
  rwa [List.length_append, List.length_singleton] at shorter

theorem not_lastOf_nil : ¬ LastOf matters earlier event [] := fun last =>
  absurd (length_lt_of_happened last.happened) (Nat.not_lt_zero _)

/-- The last event that matters is the newest one, or that does not matter. -/
theorem lastOf_concat : LastOf matters earlier event (history ++ [new]) ↔
    (earlier = history ∧ event = new ∧ matters history new) ∨
      (¬ matters history new ∧ LastOf matters earlier event history) := by
  constructor
  · intro last
    rcases prefix_concat_cases.1 last.happened with ⟨rfl, rfl⟩ | happened
    · exact .inl ⟨rfl, rfl, last.important⟩
    · refine .inr ⟨fun isNew => ?_, happened, last.important, fun before other already =>
        last.last before other (prefix_concat_cases.2 (.inr already))⟩
      have behind := last.last history new List.prefix_rfl isNew
      exact absurd (length_lt_of_happened happened) (Nat.not_lt_of_le behind)
  · rintro (⟨rfl, rfl, isNew⟩ | ⟨unimportant, last⟩)
    · refine ⟨List.prefix_rfl, isNew, fun before other happened _ => ?_⟩
      simpa using happened.length_le
    · refine ⟨prefix_concat_cases.2 (.inr last.happened), last.important, ?_⟩
      intro before other happened important
      rcases prefix_concat_cases.1 happened with ⟨rfl, rfl⟩ | already
      · exact absurd important unimportant
      · exact last.last before other already important

/-- If an event that matters decides anew whether something holds, and all others leave it
as it is, then it holds if the last event that matters has decided so. -/
theorem holds_iff_lastOf {P : List ε → Prop} {decides : List ε → ε → Prop} (initial : ¬ P [])
    (step : ∀ history new, P (history ++ [new]) ↔
      (matters history new ∧ decides history new) ∨ (¬ matters history new ∧ P history))
    (history : List ε) :
    P history ↔
      ∃ earlier event, LastOf matters earlier event history ∧ decides earlier event := by
  induction history using List.reverseRecOn with
  | nil =>
      exact ⟨fun holds => absurd holds initial, fun ⟨_, _, last, _⟩ => absurd last not_lastOf_nil⟩
  | append_singleton history new ih =>
      simp only [step, ih, lastOf_concat]
      constructor
      · rintro (⟨important, decided⟩ | ⟨unimportant, earlier, event, last, decided⟩)
        · exact ⟨history, new, .inl ⟨rfl, rfl, important⟩, decided⟩
        · exact ⟨earlier, event, .inr ⟨unimportant, last⟩, decided⟩
      · rintro ⟨earlier, event, ⟨rfl, rfl, important⟩ | ⟨unimportant, last⟩, decided⟩
        · exact .inl ⟨important, decided⟩
        · exact .inr ⟨unimportant, earlier, event, last, decided⟩

/-- An event more counts for itself. -/
theorem countP_concat (counts : ε → Bool) (history : List ε) (new : ε) :
    (history ++ [new]).countP counts = history.countP counts + if counts new then 1 else 0 := by
  rw [List.countP_append, List.countP_singleton]

/-- What matters happened last or before. -/
theorem LastOf.prefix_of_matters (last : LastOf matters earlier event history)
    {before : List ε} {other : ε} (happened : before ++ [other] <+: history)
    (important : matters before other) : before <+: earlier :=
  List.prefix_of_prefix_length_le ((List.prefix_append _ _).trans happened)
    ((List.prefix_append _ _).trans last.happened) (last.last before other happened important)

/-- If less matters, but the last event still does, it stays the last one. -/
theorem LastOf.weaken (last : LastOf matters earlier event history)
    {fewer : List ε → ε → Prop} (still : fewer earlier event)
    (subset : ∀ before other, fewer before other → matters before other) :
    LastOf fewer earlier event history :=
  ⟨last.happened, still, fun before other happened important =>
    last.last before other happened (subset before other important)⟩

end ScenePlayer
