import ScenePlayer.Proofs.Geometry.Steps
import ScenePlayer.Proofs.Scalar.Order

/-!
Sweeps of arcs. The difference of two angles is brought into a single turn by adding a turn to it,
again and again, as long as it points against the direction (`Turn.Unwinds`). For a difference of
less than a turn once is enough: its sum with a turn of the other sign is not rounded past zero or
past that turn (`Turn.within_wind`). So the loop ends, and what it ends with is the sweep that
`Pen.sweepBetween` gives (`Turn.normalises_iff`).

An arc adds its front, which joins it to what is there, and at most four cubic segments, one for
each quarter of a turn begun (`Pen.Swept`). It adds none if and only if it is flat.
-/

namespace ScenePlayer

/-! ### Winding a sweep into a turn -/

namespace Turn

/-- A full turn in a direction. -/
def full : Turn → Scalar
  | .clockwise => Scalar.tau
  | .counterClockwise => -Scalar.tau

/-- The sweep goes in the other direction. -/
def Against : Turn → Scalar → Prop
  | .clockwise, sweep => sweep < 0
  | .counterClockwise, sweep => 0 < sweep

/-- The least sweep of a direction. -/
def low : Turn → Scalar
  | .clockwise => 0
  | .counterClockwise => -Scalar.tau

/-- The greatest sweep of a direction. -/
def high : Turn → Scalar
  | .clockwise => Scalar.tau
  | .counterClockwise => 0

/-- The sweep goes in the direction and is a full turn at most. -/
def Within (turn : Turn) (sweep : Scalar) : Prop := turn.low ≤ sweep ∧ sweep ≤ turn.high

/-- Go on by a full turn. -/
def wind : Turn → Scalar → Scalar
  | .clockwise, sweep => sweep + Scalar.tau
  | .counterClockwise, sweep => sweep - Scalar.tau

instance (turn : Turn) (sweep : Scalar) : Decidable (turn.Against sweep) :=
  match turn with
  | .clockwise => inferInstanceAs (Decidable (sweep < 0))
  | .counterClockwise => inferInstanceAs (Decidable (0 < sweep))

/-- The loop that winds a sweep as long as it goes in the other direction: how often its body runs,
and what it ends with. -/
inductive Unwinds (turn : Turn) : Scalar → Nat → Scalar → Prop where
  | rest {sweep : Scalar} : ¬ turn.Against sweep → Unwinds turn sweep 0 sweep
  | round {sweep result : Scalar} {rounds : Nat} : turn.Against sweep →
      Unwinds turn (turn.wind sweep) rounds result → Unwinds turn sweep (rounds + 1) result

/-- The loop is for sweeps of less than a full turn; the others become one. -/
inductive Normalises (turn : Turn) (sweep : Scalar) : Nat → Scalar → Prop where
  | whole : Scalar.tau ≤ sweep.abs → Normalises turn sweep 0 turn.full
  | unwound {result : Scalar} {rounds : Nat} : ¬ Scalar.tau ≤ sweep.abs →
      turn.Unwinds sweep rounds result → Normalises turn sweep rounds result

variable {turn : Turn} {sweep result : Scalar} {rounds : Nat}

theorem unwinds_of_not_against (along : ¬ turn.Against sweep) :
    turn.Unwinds sweep rounds result ↔ rounds = 0 ∧ result = sweep := by
  constructor
  · intro run
    cases run with
    | rest _ => exact ⟨rfl, rfl⟩
    | round against _ => exact absurd against along
  · rintro ⟨rfl, rfl⟩
    exact .rest along

theorem unwinds_of_against (against : turn.Against sweep) :
    turn.Unwinds sweep rounds result ↔
      ∃ more, rounds = more + 1 ∧ turn.Unwinds (turn.wind sweep) more result := by
  constructor
  · intro run
    cases run with
    | rest along => exact absurd against along
    | round _ run => exact ⟨_, rfl, run⟩
  · rintro ⟨more, rfl, run⟩
    exact .round against run

/-! #### One round is enough -/

theorem against_iff :
    turn.Against sweep ↔
      sweep.isNaN = false ∧ sweep.negative ≠ turn.full.negative ∧ sweep.unsigned ≠ 0 := by
  cases turn with
  | clockwise =>
      have full : Turn.clockwise.full.negative = false := by decide
      rw [Against, Scalar.lt_iff_rank, Scalar.rank_zero, Scalar.rank_neg_iff, full]
      simp
  | counterClockwise =>
      have full : Turn.counterClockwise.full.negative = true := by decide
      rw [Against, Scalar.lt_iff_rank, Scalar.rank_zero, Scalar.rank_pos_iff, full]
      simp

theorem within_iff : turn.Within sweep ↔ Scalar.Between sweep turn.full := by
  have numbers : turn.low.isNaN = false ∧ turn.high.isNaN = false := by cases turn <;> decide
  have ranks : turn.low.rank = min 0 turn.full.rank ∧ turn.high.rank = max 0 turn.full.rank := by
    cases turn <;> decide
  rw [Within, Scalar.le_iff_rank, Scalar.le_iff_rank, numbers.1, numbers.2, ranks.1, ranks.2]
  exact ⟨fun ⟨⟨_, is, least⟩, _, _, most⟩ => ⟨is, least, most⟩,
    fun ⟨is, least, most⟩ => ⟨⟨rfl, is, least⟩, is, rfl, most⟩⟩

theorem within_full : turn.Within turn.full := by
  have number : turn.full.isNaN = false := by cases turn <;> decide
  exact within_iff.2 ⟨number, min_le_right _ _, le_max_right _ _⟩

theorem not_against_of_within (within : turn.Within sweep) : ¬ turn.Against sweep := by
  obtain ⟨least, most⟩ := within
  rw [Scalar.le_iff_rank] at least most
  cases turn with
  | clockwise =>
      have zero : clockwise.low.rank = 0 := by decide
      rw [Against, Scalar.lt_iff_rank, Scalar.rank_zero]
      omega
  | counterClockwise =>
      have zero : counterClockwise.high.rank = 0 := by decide
      rw [Against, Scalar.lt_iff_rank, Scalar.rank_zero]
      omega

section Short

variable (number : sweep.isNaN = false) (short : ¬ Scalar.tau ≤ sweep.abs)

include number short

/-- A number that is no full turn in size is less than one. -/
theorem unsigned_lt_full : sweep.unsigned < turn.full.unsigned := by
  have full : turn.full.unsigned = Scalar.tau.unsigned := by cases turn <;> decide
  have rank : Scalar.tau.rank = Scalar.tau.unsigned := by decide
  have is : Scalar.tau.isNaN = false := by decide
  rw [Scalar.le_iff_rank, Scalar.isNaN_abs, Scalar.rank_abs, rank] at short
  rw [full]
  by_contra long
  exact short ⟨is, number, by omega⟩

/-- One turn brings a short sweep into the direction. -/
theorem within_wind (against : turn.Against sweep) : turn.Within (turn.wind sweep) := by
  have wound : turn.wind sweep = sweep + turn.full := by cases turn <;> rfl
  have finite : turn.full.unsigned < Scalar.infinity := by cases turn <;> decide
  rw [within_iff, wound]
  exact Scalar.between_add (against_iff.1 against).2.1 (unsigned_lt_full number short).le finite

/-- A short sweep that does not go in the other direction goes in this one. -/
theorem within_of_not_against (along : ¬ turn.Against sweep) : turn.Within sweep := by
  rw [against_iff] at along
  have same : sweep.negative = turn.full.negative ∨ sweep.unsigned = 0 := by
    by_contra other
    exact along ⟨number, not_or.1 other⟩
  exact within_iff.2 (Scalar.between_of_le number same (unsigned_lt_full number short).le)

end Short

/-! #### The loop's result -/

theorem sweepBetween_eq (start stop : Scalar) (turn : Turn) :
    Pen.sweepBetween start stop turn =
      if Scalar.tau ≤ (stop - start).abs then turn.full
      else if turn.Against (stop - start) then turn.wind (stop - start)
      else stop - start := by
  cases turn <;> rfl

theorem normalises_of_short (short : ¬ Scalar.tau ≤ sweep.abs) :
    turn.Normalises sweep rounds result ↔ turn.Unwinds sweep rounds result := by
  refine ⟨fun run => ?_, .unwound short⟩
  cases run with
  | whole long => exact absurd long short
  | unwound _ run => exact run

/-- The loop ends after one round at most, and its result is the sweep that an arc is drawn with. -/
theorem normalises_iff (start stop : Scalar) (turn : Turn) :
    ∃ rounds ≤ 1, ∀ n result, turn.Normalises (stop - start) n result ↔
      n = rounds ∧ result = Pen.sweepBetween start stop turn := by
  rw [sweepBetween_eq]
  generalize stop - start = sweep
  by_cases long : Scalar.tau ≤ sweep.abs
  · refine ⟨0, Nat.zero_le 1, fun n result => ?_⟩
    rw [if_pos long]
    constructor
    · rintro (_ | ⟨short, _⟩)
      · exact ⟨rfl, rfl⟩
      · exact absurd long short
    · rintro ⟨rfl, rfl⟩
      exact .whole long
  simp only [if_neg long, normalises_of_short long]
  by_cases against : turn.Against sweep
  · have along := not_against_of_within (within_wind (against_iff.1 against).1 long against)
    refine ⟨1, le_rfl, fun n result => ?_⟩
    rw [unwinds_of_against against, if_pos against]
    simp only [unwinds_of_not_against along]
    constructor
    · rintro ⟨_, rfl, rfl, rfl⟩
      exact ⟨rfl, rfl⟩
    · rintro ⟨rfl, rfl⟩
      exact ⟨0, rfl, rfl, rfl⟩
  · refine ⟨0, Nat.zero_le 1, fun n result => ?_⟩
    rw [if_neg against, unwinds_of_not_against against]

/-- Unless it is no number, the sweep goes in the direction and is a full turn at most. -/
theorem within_sweepBetween (start stop : Scalar) (turn : Turn) :
    (Pen.sweepBetween start stop turn).isNaN = true ∨
      turn.Within (Pen.sweepBetween start stop turn) := by
  rw [sweepBetween_eq]
  generalize stop - start = sweep
  split
  · exact .inr within_full
  · rename_i short
    split
    · rename_i against
      exact .inr (within_wind (against_iff.1 against).1 short against)
    · rename_i along
      cases number : sweep.isNaN with
      | true => exact .inl rfl
      | false => exact .inr (within_of_not_against number short along)

end Turn

/-! ### Counting quarter turns -/

namespace Scalar

/-- A number rounded up to a whole one and moved into `[1, 4]`; 0 for what is no number. -/
def roundedUp (x : Scalar) : Nat :=
  match x.exact with
  | .nan => 0
  | .infinite s => if s then 1 else 4
  | .finite s n => if s then 1 else max 1 (min 4 ((n + (2 ^ 149 - 1)) / 2 ^ 149))

theorem roundedUp_le (x : Scalar) : x.roundedUp ≤ 4 := by
  rw [roundedUp]
  split
  · omega
  · split <;> omega
  · split <;> omega

theorem roundedUp_pos {x : Scalar} (number : x.isNaN = false) : 0 < x.roundedUp := by
  rw [roundedUp]
  split
  · rename_i none
    simp [exact, number] at none
    split at none <;> cases none
  · split <;> omega
  · split <;> omega

/-- Counting up to 4 is rounding up. -/
theorem roundedUp_eq {x : Scalar} (number : x.isNaN = false) (positive : x.negative = false) :
    x.roundedUp = if x ≤ 1 then 1 else if x ≤ 2 then 2 else if x ≤ 3 then 3 else 4 := by
  have compare {k : Scalar} {n : Nat} (is : k.isNaN = false ∧ k.negative = false)
      (value : units k.unsigned = n) : x ≤ k ↔ units x.unsigned ≤ n := by
    rw [le_iff_units ⟨number, positive⟩ is, value]
  have one : x ≤ 1 ↔ units x.unsigned ≤ 2 ^ 149 := compare (by decide) (by decide)
  have two : x ≤ 2 ↔ units x.unsigned ≤ 2 * 2 ^ 149 := compare (by decide) (by decide)
  have three : x ≤ 3 ↔ units x.unsigned ≤ 3 * 2 ^ 149 := compare (by decide) (by decide)
  simp only [one, two, three, roundedUp]
  by_cases finite : x.unsigned < infinity
  · rw [exact_of_finite finite, positive]
    simp only [Bool.false_eq_true, if_false]
    split
    · omega
    · split
      · omega
      · split <;> omega
  · have whole : x.unsigned = infinity := by
      have := of_decide_eq_false number
      omega
    have value : x.exact = .infinite false := by
      rw [exact, number, if_neg Bool.false_ne_true, if_pos whole, positive]
    have vast : 3 * 2 ^ 149 < units infinity := by decide
    rw [value, whole, if_neg (by omega), if_neg (by omega), if_neg (by omega)]
    rfl

end Scalar

namespace Pen

/-- An arc that is nothing but the point where it starts. -/
def Flat (radius sweep : Scalar) : Prop :=
  sweep.equal 0 = true ∨ radius.equal 0 = true ∨ sweep.isFinite = false

instance (radius sweep : Scalar) : Decidable (Flat radius sweep) :=
  inferInstanceAs (Decidable (_ ∨ _ ∨ _))

/-- How many cubic segments an arc of a radius and a sweep is drawn with. -/
def cubics (radius sweep : Scalar) : Nat :=
  if Flat radius sweep then 0
  else ((sweep.clamp (-Scalar.tau) Scalar.tau).abs / Scalar.quarterTurn).roundedUp

/-- Finite sweeps make up a number of quarter turns. -/
theorem number_quarters {sweep : Scalar} (finite : sweep.isFinite = true) :
    (sweep.abs / Scalar.quarterTurn).isNaN = false ∧
      (sweep.abs / Scalar.quarterTurn).negative = false := by
  have size : sweep.abs.exact = .finite false (Scalar.units sweep.unsigned) :=
    Scalar.exact_pack false (of_decide_eq_true finite)
  have quarter : Scalar.quarterTurn.exact = .finite false (0xc90fdb <<< 126) := by decide
  have quotient : sweep.abs / Scalar.quarterTurn = Scalar.pack false
      (Scalar.magnitude (Scalar.units sweep.unsigned <<< 149) (0xc90fdb <<< 126)) := by
    change sweep.abs.div Scalar.quarterTurn = _
    simp only [Scalar.div, size, quarter]
    rfl
  rw [quotient]
  have bounded := Scalar.magnitude_le_infinity (Scalar.units sweep.unsigned <<< 149)
    (0xc90fdb <<< 126)
  exact ⟨Scalar.isNaN_pack _ bounded, Scalar.negative_pack _ (Scalar.lt_of_le_infinity bounded)⟩

theorem isFinite_clamp {radius sweep : Scalar} (round : ¬ Flat radius sweep) :
    (sweep.clamp (-Scalar.tau) Scalar.tau).isFinite = true := by
  have finite : sweep.isFinite = true := by
    simp only [Flat, not_or, Bool.not_eq_false] at round
    exact round.2.2
  rw [Scalar.clamp]
  split
  · decide
  · split
    · decide
    · exact finite

theorem cubics_le (radius sweep : Scalar) : cubics radius sweep ≤ 4 := by
  rw [cubics]
  split
  · exact Nat.zero_le 4
  · exact Scalar.roundedUp_le _

theorem cubics_eq_zero_iff {radius sweep : Scalar} :
    cubics radius sweep = 0 ↔ Flat radius sweep := by
  rw [cubics]
  split
  · rename_i flat
    exact iff_of_true rfl flat
  · rename_i round
    have some := Scalar.roundedUp_pos (number_quarters (isFinite_clamp round)).1
    exact iff_of_false some.ne' round

theorem quarterTurns_eq {sweep : Scalar} (finite : sweep.isFinite = true) :
    quarterTurns sweep = (sweep.abs / Scalar.quarterTurn).roundedUp :=
  (Scalar.roundedUp_eq (number_quarters finite).1 (number_quarters finite).2).symm

/-! ### The verbs of an arc -/

/-- The arc's own loop appends a cubic segment in each round. -/
theorem Ready.arcSegments {pen : Pen} (ready : pen.Ready) (centre : Point)
    (radius step handle : Scalar) (count : Nat) (angle : Scalar) (p : Point) :
    (pen.arcSegments centre radius step handle count angle p).Ready ∧
      (pen.arcSegments centre radius step handle count angle p).verbs =
        pen.verbs ++ List.replicate count .cubic := by
  induction count generalizing angle p pen with
  | zero => exact ⟨ready, (List.append_nil _).symm⟩
  | succ count ih =>
      rw [Pen.arcSegments]
      obtain ⟨next, verbs⟩ := ready.cubicTo _ _ _
      refine ⟨(ih next _ _).1, ?_⟩
      rw [(ih next _ _).2, verbs, List.append_assoc, List.replicate_succ, List.singleton_append]

theorem equal_zero_abs (x : Scalar) : x.abs.equal 0 = x.equal 0 := by
  rw [Bool.eq_iff_iff, Scalar.equal_zero_iff, Scalar.equal_zero_iff, Scalar.unsigned_abs]

/-- Behind the point where it starts, an arc is nothing but its cubic segments. -/
theorem verbs_arcSweep (centre : Point) (radius start sweep : Scalar) {connect : Bool}
    {pen joined : Pen}
    (front : (if connect then pen.lineTo (onCircle centre radius.abs start)
      else pen.moveTo (onCircle centre radius.abs start)) = joined) (ready : joined.Ready) :
    (pen.arcSweep centre radius start sweep connect).Ready ∧
      (pen.arcSweep centre radius start sweep connect).verbs =
        joined.verbs ++ List.replicate (cubics radius sweep) .cubic := by
  have guard : (sweep.equal 0 || radius.abs.equal 0 || !sweep.isFinite) = true ↔
      Flat radius sweep := by
    rw [equal_zero_abs, Flat]
    simp [or_assoc]
  simp only [arcSweep, front, guard, cubics]
  split
  · exact ⟨ready, (List.append_nil _).symm⟩
  · rename_i round
    rw [quarterTurns_eq (isFinite_clamp round)]
    exact ready.arcSegments _ _ _ _ _ _ _

/-- What an arc adds to a path: its front, its cubic segments and what stands behind them. -/
structure Swept (lead tail : List Verb) (radius sweep : Scalar) (before after : Pen) : Prop where
  current : after.current ≠ none
  verbs : ∃ front, front.Sublist lead ∧
    after.verbs = before.verbs ++ front ++ List.replicate (cubics radius sweep) .cubic ++ tail
  few : cubics radius sweep ≤ 4
  flat : cubics radius sweep = 0 ↔ Flat radius sweep

theorem swept_arcSweep (centre : Point) (radius start sweep : Scalar) (connect : Bool) (pen : Pen) :
    Swept (if connect then [.move, .line] else [.move]) [] radius sweep pen
      (pen.arcSweep centre radius start sweep connect) := by
  have joined : Joined (if connect then [.move, .line] else [.move]) pen
      (if connect then pen.lineTo (onCircle centre radius.abs start)
        else pen.moveTo (onCircle centre radius.abs start)) := by
    cases connect with
    | false => exact joined_moveTo _ pen
    | true => exact joined_lineTo _ pen
  obtain ⟨ready, front, within, verbs⟩ := joined
  obtain ⟨arrived, swept⟩ := verbs_arcSweep centre radius start sweep rfl ready
  refine ⟨arrived.current, ⟨front, within, ?_⟩, cubics_le _ _, cubics_eq_zero_iff⟩
  rw [swept, verbs, List.append_nil]

theorem kept_start : Kept fun pen => pen.start ≠ none where
  move := fun _ p => Option.some_ne_none p
  draw := fun set _ _ _ _ => set
  shut := fun set _ => by
    unfold close
    split <;> exact set

/-- The arc of a sector goes out from the centre, and a close goes back there. -/
theorem swept_sector (radius sweep : Scalar) (pen : Pen) :
    Swept [.move, .line] [.close] radius sweep pen (pen.addShape (.sector radius sweep)) := by
  let centred := pen.moveTo ⟨0, 0⟩
  let swept := centred.arcSweep ⟨0, 0⟩ radius 0 sweep true
  have started : swept.start ≠ none := by
    have centre : centred.start ≠ none := Option.some_ne_none _
    exact kept_start.arcSweep _ _ _ _ _ centre
  obtain ⟨ready, front, within, moved⟩ := joined_moveTo ⟨0, 0⟩ pen
  let p := onCircle ⟨0, 0⟩ radius.abs 0
  have line : (if true then centred.lineTo p else centred.moveTo p) = centred.lineTo p := rfl
  have joined := (joined_lineTo p centred).ready
  obtain ⟨arrived, arc⟩ := verbs_arcSweep ⟨0, 0⟩ radius 0 sweep line joined
  have closed : (pen.addShape (.sector radius sweep)) = swept.close := rfl
  refine ⟨?_, ⟨front ++ [.line], within.append (List.Sublist.refl _), ?_⟩, cubics_le _ _,
    cubics_eq_zero_iff⟩
  · rw [closed, close_of_current arrived.current]
    exact started
  · rw [closed, arrived.verbs_close, arc, ready.verbs_lineTo, moved]
    simp only [List.append_assoc]

/-- A rounded corner is an arc; a corner that cannot be rounded is a line or a move. -/
theorem arcTo_eq (tangent stop : Point) (radius : Scalar) (pen : Pen) :
    Joined [.move, .line] pen (pen.arcTo tangent stop radius) ∨
      ∃ centre start finish turn,
        pen.arcTo tangent stop radius = pen.arc centre radius start finish turn := by
  have line := joined_lineTo tangent pen
  unfold arcTo
  split
  · obtain ⟨ready, front, within, verbs⟩ := joined_moveTo tangent pen
    exact .inl ⟨ready, front, within.trans (by decide), verbs⟩
  · split
    · simp only
      split
      · exact .inl line
      · split
        · exact .inl line
        · split <;> exact .inr ⟨_, _, _, _, rfl⟩
    · exact .inl line

/-- Whatever the operands are, the loops behind an arc end, and an arc adds no more than its front
and four cubic segments. -/
theorem arcs_end (pen : Pen) (centre tangent corner : Point) (radius start stop sweep : Scalar)
    (turn : Turn) :
    (∃ rounds ≤ 1, ∀ n result, turn.Normalises (stop - start) n result ↔
      n = rounds ∧ result = sweepBetween start stop turn) ∧
    ((sweepBetween start stop turn).isNaN = true ∨ turn.Within (sweepBetween start stop turn)) ∧
    Swept [.move, .line] [] radius (sweepBetween start stop turn) pen
      (pen.arc centre radius start stop turn) ∧
    Swept [.move] [] radius sweep pen (pen.addShape (.arc radius sweep)) ∧
    Swept [.move, .line] [.close] radius sweep pen (pen.addShape (.sector radius sweep)) ∧
    (Joined [.move, .line] pen (pen.arcTo tangent corner radius) ∨
      ∃ centre start stop turn,
        pen.arcTo tangent corner radius = pen.arc centre radius start stop turn) :=
  ⟨Turn.normalises_iff start stop turn, Turn.within_sweepBetween start stop turn,
    swept_arcSweep centre radius start _ true pen, swept_arcSweep ⟨0, 0⟩ radius 0 sweep false pen,
    swept_sector radius sweep pen, arcTo_eq tangent corner radius pen⟩

end Pen

end ScenePlayer
