import Mathlib.Algebra.GroupWithZero.Nat
import Mathlib.Data.List.Chain
import ScenePlayer.Proofs.Geometry.Steps

/-!
The draft behind a pen. A pen keeps its current point and the start of the contour at hand beside
the segments drawn so far. A draft is a path builder as it is usually made: verbs and points in two
runs, the index of the last move's point, and a flag that the next drawing verb needs a move first.

Any steps on a pen are moves, drawn segments and closes on a draft (`Traced`). What the draft then
holds is read off the pen's trail (`Traced.draft_eq`), and the pen's own records are the points at
which the draft goes on (`Pen.matches_of_traced`). The order of the verbs rests on one fact for
each verb: what it may follow (`Grown`).
-/

namespace ScenePlayer

/-! ### Contours -/

namespace Verb

/-- A move follows anything but a move, and any other verb anything but a close. -/
def MayFollow (earlier : Verb) : Verb → Prop
  | .move => earlier ≠ .move
  | _ => earlier ≠ .close

/-- Drawing verbs, then at most one close. -/
def IsRun (verbs : List Verb) : Prop :=
  ∃ drawings closing, verbs = drawings ++ closing ∧ (∀ verb ∈ drawings, verb.draws = true) ∧
    closing.Sublist [.close]

/-- A move, drawing verbs, then at most one close. -/
def IsContour (verbs : List Verb) : Prop := ∃ run, verbs = .move :: run ∧ IsRun run

theorem isRun_nil : IsRun [] := ⟨[], [], rfl, by simp, List.nil_sublist _⟩

theorem isRun_close : IsRun [.close] := ⟨[], [.close], rfl, by simp, List.Sublist.refl _⟩

theorem IsRun.cons {verb : Verb} {run : List Verb} (draws : verb.draws = true) (isRun : IsRun run) :
    IsRun (verb :: run) := by
  obtain ⟨drawings, closing, rfl, all, closes⟩ := isRun
  exact ⟨verb :: drawings, closing, rfl, List.forall_mem_cons.2 ⟨draws, all⟩, closes⟩

/-- What follows a verb finishes its contour, and contours follow. -/
theorem exists_contours {verb : Verb} {rest : List Verb}
    (ordered : (verb :: rest).IsChain MayFollow) :
    ∃ (run : List Verb) (contours : List (List Verb)), rest = run ++ contours.flatten ∧ IsRun run ∧
      (∀ contour ∈ contours, IsContour contour) ∧ (verb = .close → run = []) := by
  induction rest generalizing verb with
  | nil => exact ⟨[], [], rfl, isRun_nil, by simp, fun _ => rfl⟩
  | cons next rest ih =>
      obtain ⟨follows, ordered⟩ := List.isChain_cons_cons.1 ordered
      obtain ⟨run, contours, rfl, isRun, all, closed⟩ := ih ordered
      cases next with
      | move =>
          exact ⟨[], (.move :: run) :: contours, rfl, isRun_nil,
            List.forall_mem_cons.2 ⟨⟨run, rfl, isRun⟩, all⟩, fun _ => rfl⟩
      | line | quad | cubic =>
          exact ⟨_ :: run, contours, rfl, isRun.cons rfl, all, fun close => absurd close follows⟩
      | close =>
          obtain rfl := closed rfl
          exact ⟨[.close], contours, rfl, isRun_close, all, fun close => absurd close follows⟩

end Verb

/-- A trail that starts with a move and on which each segment may follow the one before. -/
inductive Grown : List Segment → Prop where
  | nil : Grown []
  | first (p : Point) : Grown [.move p]
  | push {earlier segment : Segment} {trail : List Segment} :
      Grown (earlier :: trail) → earlier.verb.MayFollow segment.verb →
        Grown (segment :: earlier :: trail)

namespace Grown

variable {trail : List Segment}

theorem exists_target (grown : Grown trail) (nonempty : trail ≠ []) :
    ∃ p, trail.findSome? Segment.target? = some p := by
  induction grown with
  | nil => exact absurd rfl nonempty
  | first p => exact ⟨p, rfl⟩
  | push _ _ ih =>
      rw [List.findSome?_cons]
      split
      · exact ⟨_, rfl⟩
      · exact ih (List.cons_ne_nil _ _)

theorem addMove (grown : Grown trail) (p : Point) : Grown (Pen.addMove p trail) := by
  cases grown with
  | nil => exact .first p
  | first _ => exact .first p
  | @push earlier segment _ grown follows =>
      cases segment with
      | move _ => exact grown.push follows
      | line _ | quad _ _ | cubic _ _ _ | close =>
          exact (grown.push follows).push Verb.noConfusion

theorem addDrawing (grown : Grown trail) (nonempty : trail ≠ []) {segment : Segment} {p : Point}
    (stops : segment.stop? = some p) : Grown (Pen.addDrawing segment trail) := by
  have follows {earlier : Verb} (unclosed : earlier ≠ .close) :
      earlier.MayFollow segment.verb := by
    cases segment <;> first | exact unclosed | cases stops
  rcases Pen.addDrawing_cases segment trail with ⟨rest, rfl, drawn⟩ | ⟨unclosed, drawn⟩
  · have moved : Grown (.move (Pen.latestMove rest) :: .close :: rest) :=
      grown.push Verb.noConfusion
    rw [drawn]
    exact moved.push (follows Verb.noConfusion)
  · rw [drawn]
    obtain ⟨head, rest, rfl⟩ := List.exists_cons_of_ne_nil nonempty
    refine grown.push (follows fun closes => unclosed ?_)
    cases head <;> first | rfl | cases closes

theorem addClose (grown : Grown trail) : Grown (Pen.addClose trail) := by
  cases trail with
  | nil => exact grown
  | cons head rest =>
      cases head with
      | close => exact grown
      | move _ | line _ | quad _ _ | cubic _ _ _ => exact grown.push Verb.noConfusion

theorem isChain (grown : Grown trail) : (Pen.verbsOf trail).IsChain Verb.MayFollow := by
  induction grown with
  | nil => exact .nil
  | first p => exact .singleton _
  | push _ follows ih =>
      rw [Pen.verbsOf_cons, List.isChain_append]
      refine ⟨ih, .singleton _, ?_⟩
      simpa using follows

/-- The first verb is a move. -/
theorem verbs_eq (grown : Grown trail) (nonempty : trail ≠ []) :
    ∃ rest, Pen.verbsOf trail = .move :: rest := by
  induction grown with
  | nil => exact absurd rfl nonempty
  | first p => exact ⟨[], rfl⟩
  | @push _ segment _ _ _ ih =>
      obtain ⟨rest, started⟩ := ih (List.cons_ne_nil _ _)
      exact ⟨rest ++ [segment.verb], by rw [Pen.verbsOf_cons, started]; rfl⟩

theorem contours (grown : Grown trail) :
    ∃ contours : List (List Verb),
      Pen.verbsOf trail = contours.flatten ∧ ∀ contour ∈ contours, Verb.IsContour contour := by
  by_cases nonempty : trail = []
  · subst nonempty
    exact ⟨[], rfl, by simp⟩
  · obtain ⟨rest, started⟩ := grown.verbs_eq nonempty
    have ordered := grown.isChain
    rw [started] at ordered ⊢
    obtain ⟨run, contours, rfl, isRun, all, _⟩ := Verb.exists_contours ordered
    exact ⟨(.move :: run) :: contours, rfl, List.forall_mem_cons.2 ⟨⟨run, rfl, isRun⟩, all⟩⟩

end Grown

/-! ### Drafts -/

/-- A path under construction, verbs and points apart. -/
structure Draft where
  verbs : List Verb := []
  points : List Point := []
  /-- Where the point of the last move stands. -/
  lastMove : Nat := 0
  /-- The next drawing verb needs a move. -/
  moveDue : Bool := false
  deriving DecidableEq, Repr

namespace Draft

/-- A move behind a move takes its place. -/
def moveTo (p : Point) (draft : Draft) : Draft :=
  if draft.verbs.getLast? = some .move then
    { draft with points := draft.points.set (draft.points.length - 1) p }
  else
    { verbs := draft.verbs ++ [.move], points := draft.points ++ [p],
      lastMove := draft.points.length, moveDue := false }

/-- Make up for a move that is due: back to the point of the last move, or to the origin. -/
def ready (draft : Draft) : Draft :=
  if draft.moveDue then draft.moveTo (draft.points[draft.lastMove]?.getD ⟨0, 0⟩) else draft

def draw (segment : Segment) (draft : Draft) : Draft :=
  { draft.ready with
    verbs := draft.ready.verbs ++ [segment.verb], points := draft.ready.points ++ segment.points }

/-- Nothing is closed twice. -/
def close (draft : Draft) : Draft :=
  { draft with
    verbs :=
      if draft.verbs = [] ∨ draft.verbs.getLast? = some .close then draft.verbs
      else draft.verbs ++ [.close]
    moveDue := true }

/-- The point from which the next drawing verb draws. -/
def drawsFrom (draft : Draft) : Option Point :=
  if draft.moveDue then draft.points[draft.lastMove]? else draft.points.getLast?

/-! ### The draft of a trail -/

def pointsOf (trail : List Segment) : List Point := trail.reverse.flatMap Segment.points

@[simp] theorem pointsOf_cons (segment : Segment) (trail : List Segment) :
    pointsOf (segment :: trail) = pointsOf trail ++ segment.points := by
  rw [pointsOf, List.reverse_cons, List.flatMap_append, List.flatMap_singleton, pointsOf]

/-- How many points come before that of the latest move. -/
def moveIndex : List Segment → Nat
  | [] => 0
  | .move _ :: rest => (pointsOf rest).length
  | _ :: rest => moveIndex rest

def ofTrail (trail : List Segment) : Draft where
  verbs := Pen.verbsOf trail
  points := pointsOf trail
  lastMove := moveIndex trail
  moveDue := trail.head? = some .close

theorem length_pointsOf (trail : List Segment) :
    (pointsOf trail).length = ((Pen.verbsOf trail).map Verb.size).sum := by
  induction trail with
  | nil => rfl
  | cons segment trail ih => simp [ih, segment.length_points]

@[simp] theorem getLast?_verbsOf (trail : List Segment) :
    (Pen.verbsOf trail).getLast? = trail.head?.map Segment.verb := by
  cases trail with
  | nil => rfl
  | cons segment trail => simp

section Started

variable {trail : List Segment} {p : Point} (started : trail.findSome? Segment.target? = some p)

include started

theorem latestMove_eq : Pen.latestMove trail = p := by
  induction trail with
  | nil => cases started
  | cons segment trail ih =>
      cases segment with
      | move q => exact Option.some.inj started
      | line | quad | cubic | close => exact ih started

theorem getElem?_moveIndex : (pointsOf trail)[moveIndex trail]? = some p := by
  induction trail with
  | nil => cases started
  | cons segment trail ih =>
      rw [pointsOf_cons]
      cases segment with
      | move q =>
          rw [moveIndex, List.getElem?_append_right le_rfl, Nat.sub_self]
          exact started
      | line | quad | cubic | close =>
          have before := ih started
          exact (List.getElem?_append_left (List.getElem?_eq_some_iff.1 before).1).trans before

end Started

theorem ofTrail_addMove (p : Point) (trail : List Segment) :
    ofTrail (Pen.addMove p trail) = (ofTrail trail).moveTo p := by
  cases trail with
  | nil => rfl
  | cons head rest =>
      cases head <;>
        simp [Pen.addMove, moveTo, ofTrail, moveIndex, Segment.verb, Segment.points]

/-- A drawing segment behind anything but a close. -/
theorem ofTrail_cons {segment : Segment} {p : Point} (stops : segment.stop? = some p)
    {trail : List Segment} (unclosed : Pen.IsOpen trail) :
    ofTrail (segment :: trail) = (ofTrail trail).draw segment := by
  have settled : (ofTrail trail).ready = ofTrail trail :=
    if_neg fun due => unclosed (of_decide_eq_true due)
  have undue : decide (trail.head? = some Segment.close) = false := decide_eq_false unclosed
  rw [draw, settled]
  cases segment <;> cases stops <;> simp [ofTrail, moveIndex, undue]

theorem ofTrail_addDrawing {segment : Segment} {p : Point} (stops : segment.stop? = some p)
    {trail : List Segment} {q : Point} (started : trail.findSome? Segment.target? = some q) :
    ofTrail (Pen.addDrawing segment trail) = (ofTrail trail).draw segment := by
  rcases Pen.addDrawing_cases segment trail with ⟨rest, rfl, drawn⟩ | ⟨unclosed, drawn⟩
  · -- Behind a close both go back to the latest move first.
    have latest : Pen.latestMove rest = q := latestMove_eq started
    have back : (ofTrail (.close :: rest)).ready = ofTrail (.move q :: .close :: rest) := by
      have due : (ofTrail (.close :: rest)).ready = (ofTrail (.close :: rest)).moveTo
          ((pointsOf (.close :: rest))[moveIndex (.close :: rest)]?.getD ⟨0, 0⟩) := rfl
      rw [due, getElem?_moveIndex started, Option.getD_some, ← ofTrail_addMove]
      rfl
    have settled : (ofTrail (.move q :: .close :: rest)).ready =
        ofTrail (.move q :: .close :: rest) := rfl
    rw [drawn, latest, ofTrail_cons stops (by simp [Pen.IsOpen]), draw, draw, settled, back]
  · rw [drawn, ofTrail_cons stops unclosed]

theorem ofTrail_addClose {trail : List Segment} (nonempty : trail ≠ []) :
    ofTrail (Pen.addClose trail) = (ofTrail trail).close := by
  obtain ⟨head, rest, rfl⟩ := List.exists_cons_of_ne_nil nonempty
  cases head <;> simp [Pen.addClose, close, ofTrail, moveIndex, Segment.verb, Segment.points]

/-! ### Where a draft goes on -/

theorem drawsFrom_move (p : Point) (trail : List Segment) :
    (ofTrail (.move p :: trail)).drawsFrom = some p := by
  simp [drawsFrom, ofTrail, Segment.points]

theorem drawsFrom_drawing {segment : Segment} {p : Point} (stops : segment.stop? = some p)
    (trail : List Segment) : (ofTrail (segment :: trail)).drawsFrom = some p := by
  cases segment <;> cases stops <;> simp [drawsFrom, ofTrail, Segment.points]

theorem drawsFrom_close (trail : List Segment) :
    (ofTrail (.close :: trail)).drawsFrom = (pointsOf trail)[moveIndex trail]? := by
  simp [drawsFrom, ofTrail, moveIndex, Segment.points]

end Draft

/-! ### Pen and draft side by side -/

/-- A pen and a draft on which the same moves, segments and closes were made. -/
inductive Traced : Pen → Draft → Prop where
  | fresh : Traced {} {}
  | move {pen : Pen} {draft : Draft} : Traced pen draft → ∀ p,
      Traced (pen.moveTo p) (draft.moveTo p)
  | draw {pen : Pen} {draft : Draft} : Traced pen draft → pen.current ≠ none →
      ∀ {segment : Segment} {p : Point}, segment.stop? = some p →
        Traced (pen.drawTo segment p) (draft.draw segment)
  | close {pen : Pen} {draft : Draft} : Traced pen draft → pen.current ≠ none →
      Traced pen.close draft.close

namespace Pen

/-- The records of a pen are those of its trail. -/
structure Sound (pen : Pen) : Prop where
  grown : Grown pen.trail
  start : pen.start = pen.trail.findSome? Segment.target?
  current : pen.current = (Draft.ofTrail pen.trail).drawsFrom

namespace Sound

variable {pen : Pen}

theorem fresh : Sound {} := ⟨.nil, rfl, rfl⟩

theorem current_eq_none_iff (sound : pen.Sound) : pen.current = none ↔ pen.trail = [] := by
  rw [sound.current]
  constructor
  · intro unset
    by_contra nonempty
    obtain ⟨p, started⟩ := sound.grown.exists_target nonempty
    obtain ⟨head, rest, split⟩ := List.exists_cons_of_ne_nil nonempty
    rw [split] at unset started
    cases head with
    | move q => rw [Draft.drawsFrom_move] at unset; cases unset
    | line | quad | cubic => rw [Draft.drawsFrom_drawing rfl] at unset; cases unset
    | close =>
        have moved : (Draft.pointsOf rest)[Draft.moveIndex rest]? = some p :=
          Draft.getElem?_moveIndex started
        rw [Draft.drawsFrom_close, moved] at unset
        cases unset
  · rintro empty
    rw [empty]
    rfl

/-- Behind a current point there is a move. -/
theorem exists_start (sound : pen.Sound) (set : pen.current ≠ none) :
    ∃ p, pen.trail.findSome? Segment.target? = some p :=
  sound.grown.exists_target (mt sound.current_eq_none_iff.2 set)

theorem move (sound : pen.Sound) (p : Point) : (pen.moveTo p).Sound := by
  obtain ⟨rest, moved⟩ : ∃ rest, addMove p pen.trail = .move p :: rest := by
    rcases addMove_cases p pen.trail with ⟨_, rest, _, moved⟩ | moved
    · exact ⟨rest, moved⟩
    · exact ⟨_, moved⟩
  refine ⟨sound.grown.addMove p, ?_, ?_⟩
  · simp only [moveTo, moved]
    rfl
  · simp only [moveTo, moved, Draft.drawsFrom_move]

theorem draw (sound : pen.Sound) (set : pen.current ≠ none) {segment : Segment} {p : Point}
    (stops : segment.stop? = some p) : (pen.drawTo segment p).Sound := by
  obtain ⟨q, started⟩ := sound.exists_start set
  have still : segment.target? = none := by
    cases segment <;> first | rfl | cases stops
  obtain ⟨rest, drawn, same⟩ : ∃ rest, addDrawing segment pen.trail = segment :: rest ∧
      rest.findSome? Segment.target? = some q := by
    rcases addDrawing_cases segment pen.trail with ⟨rest, closed, drawn⟩ | ⟨_, drawn⟩
    · rw [closed] at started
      exact ⟨_, drawn, congrArg some (Draft.latestMove_eq started)⟩
    · exact ⟨_, drawn, started⟩
  refine ⟨sound.grown.addDrawing (mt sound.current_eq_none_iff.2 set) stops, ?_, ?_⟩
  · simp only [drawTo, drawn, List.findSome?_cons, still, same, sound.start, started]
  · simp only [drawTo, drawn, Draft.drawsFrom_drawing stops]

theorem close (sound : pen.Sound) (set : pen.current ≠ none) : pen.close.Sound := by
  obtain ⟨p, started⟩ := sound.exists_start set
  obtain ⟨rest, closed, same⟩ : ∃ rest, addClose pen.trail = .close :: rest ∧
      rest.findSome? Segment.target? = some p := by
    unfold addClose
    split
    · rename_i empty
      rw [empty] at started
      cases started
    · rename_i rest closed
      rw [closed] at started
      exact ⟨rest, rfl, started⟩
    · exact ⟨_, rfl, started⟩
  have grown := sound.grown.addClose
  rw [closed] at grown
  have start : pen.start = some p := sound.start.trans started
  rw [close_of_current set, closed]
  exact ⟨grown, start.trans same.symm,
    start.trans ((Draft.drawsFrom_close rest).trans (Draft.getElem?_moveIndex same)).symm⟩

end Sound

end Pen

/-- A draft beside a pen holds what the pen's trail says. -/
theorem Traced.sound {pen : Pen} {draft : Draft} (traced : Traced pen draft) :
    pen.Sound ∧ draft = Draft.ofTrail pen.trail := by
  induction traced with
  | fresh => exact ⟨.fresh, rfl⟩
  | move _ p ih =>
      obtain ⟨sound, rfl⟩ := ih
      exact ⟨sound.move p, (Draft.ofTrail_addMove p _).symm⟩
  | draw _ set stops ih =>
      obtain ⟨sound, rfl⟩ := ih
      obtain ⟨q, started⟩ := sound.exists_start set
      exact ⟨sound.draw set stops, (Draft.ofTrail_addDrawing stops started).symm⟩
  | close _ set ih =>
      obtain ⟨sound, rfl⟩ := ih
      refine ⟨sound.close set, ?_⟩
      rw [← Draft.ofTrail_addClose (mt sound.current_eq_none_iff.2 set), Pen.close_of_current set]

namespace Pen

/-- What a path under construction shows of the draft behind it. -/
structure Matches (pen : Pen) (draft : Draft) : Prop where
  verbs : pen.verbs = draft.verbs
  points : pen.segments.flatMap Segment.points = draft.points
  contours : ∃ contours : List (List Verb),
    draft.verbs = contours.flatten ∧ ∀ contour ∈ contours, Verb.IsContour contour
  ordered : draft.verbs.IsChain Verb.MayFollow
  sizes : draft.points.length = (draft.verbs.map Verb.size).sum
  empty : pen.isEmpty = true ↔ pen.current = none
  current : pen.current = draft.drawsFrom
  start : pen.start = draft.points[draft.lastMove]?
  latest : pen.start = pen.trail.findSome? Segment.target?

theorem matches_of_traced {pen : Pen} {draft : Draft} (traced : Traced pen draft) :
    pen.Matches draft := by
  obtain ⟨sound, rfl⟩ := traced.sound
  refine ⟨rfl, rfl, sound.grown.contours, sound.grown.isChain, Draft.length_pointsOf _, ?_,
    sound.current, ?_, sound.start⟩
  · rw [isEmpty, List.isEmpty_iff, sound.current_eq_none_iff]
  · rw [sound.start]
    by_cases empty : pen.trail = []
    · rw [empty]
      rfl
    · obtain ⟨p, started⟩ := sound.grown.exists_target empty
      exact started.trans (Draft.getElem?_moveIndex started).symm

theorem kept_traced : Kept fun pen => ∃ draft, Traced pen draft where
  move := fun ⟨_, traced⟩ p => ⟨_, traced.move p⟩
  draw := fun ⟨_, traced⟩ set _ _ stops => ⟨_, traced.draw set stops⟩
  shut := fun ⟨_, traced⟩ set => ⟨_, traced.close set⟩

/-- After any steps the path is well formed. One draft stands beside the pen, and the pen's own
records of where it is and where its contour started are the points from which that draft goes
on. -/
theorem ofSteps_matches (steps : List PenStep) :
    ∃ draft, (∀ other, Traced (ofSteps steps) other ↔ other = draft) ∧
      (ofSteps steps).Matches draft := by
  obtain ⟨draft, traced⟩ := kept_traced.ofSteps ⟨{}, .fresh⟩ steps
  refine ⟨draft, fun other => ⟨fun also => ?_, fun same => same ▸ traced⟩, matches_of_traced traced⟩
  exact also.sound.2.trans traced.sound.2.symm

end Pen

end ScenePlayer
