import Mathlib.Data.Nat.Dist
import ScenePlayer.Proofs.Settings.Literals
import ScenePlayer.Proofs.Settings.Ranges

/-!
Settings from the environment. Each variable decides one field, and no other does
(`Settings.Decides`): what its text denotes is brought to the nearest value in the range of the
field, and a variable that is missing or denotes nothing leaves the usual value. One lemma gives
this for all variables (`decides_of_eq`); it needs the grammar of the text and the range. A value in
range is the nearest one to itself, so settings that are written out in decimal are read back
(`ofEnvironment_of_spelled`).
-/

namespace ScenePlayer

attribute [ext] Settings

namespace Settings

/-- A positive number that a 64-bit word holds. -/
def IsCount (n : Nat) : Prop := 1 ≤ n ∧ n < UInt64.size

instance (n : Nat) : Decidable (IsCount n) := inferInstanceAs (Decidable (_ ∧ _))

/-- Of the numbers in a range, none is nearer to `asked`. -/
structure IsNearest (range : Nat → Prop) (asked value : Nat) : Prop where
  within : range value
  least : ∀ other, range other → asked.dist value ≤ asked.dist other

/-- A variable decides a field. `denotes` is the grammar of its texts, and `near` says to which
value of the field one that is asked for is brought. -/
structure Decides {α : Type} (name : String) (denotes : List Char → α → Prop)
    (near : α → α → Prop) (field : Settings → α) : Prop where
  given : ∀ lookup text asked, lookup name = some text → denotes text.toList asked →
    near asked (field (ofEnvironment lookup))
  missing : ∀ lookup, (∀ text, lookup name = some text → ∀ asked, ¬ denotes text.toList asked) →
    field (ofEnvironment lookup) = field {}
  /-- No other variable counts. -/
  alone : ∀ lookup other : String → Option String, lookup name = other name →
    field (ofEnvironment lookup) = field (ofEnvironment other)

/-! ### Nearest values -/

variable {range : Nat → Prop} {asked value : Nat}

theorem IsNearest.eq_of_within (nearest : IsNearest range asked value) (within : range asked) :
    value = asked := by
  have none := nearest.least asked within
  rw [Nat.dist_self] at none
  exact (Nat.eq_of_dist_eq_zero (Nat.le_zero.1 none)).symm

theorem isNearest_between (n : Nat) : IsNearest IsSide n (between 1 longestSide n) where
  within := isSide_between n
  least other side := by
    obtain ⟨low, high⟩ := side
    rw [between, Nat.dist, Nat.dist]
    omega

theorem isNearest_max {n : Nat} (small : n < UInt64.size) : IsNearest IsCount n (max n 1) where
  within := ⟨Nat.le_max_right .., Nat.max_lt.2 ⟨small, by decide⟩⟩
  least other count := by
    obtain ⟨low, -⟩ := count
    rw [Nat.dist, Nat.dist]
    omega

/-! ### Variables -/

theorem decides_of_eq {α : Type} {name : String} {denotes : List Char → α → Prop}
    {near : α → α → Prop} {field : Settings → α} {read : String → Option α} {usual : α}
    (bring : α → α)
    (made : ∀ lookup, field (ofEnvironment lookup) = bring (given lookup name read usual))
    (grammar : ∀ text value, read text = some value ↔ denotes text.toList value)
    (brought : ∀ text value, denotes text value → near value (bring value))
    (kept : bring usual = field {}) : Decides name denotes near field where
  given lookup text asked set denoted := by
    rw [made, Settings.given, set, Option.bind_some, (grammar text asked).2 denoted]
    exact brought text.toList asked denoted
  missing lookup nothing := by
    have unread : (lookup name).bind read = none := by
      refine Option.bind_eq_none_iff.2 fun text set => Option.eq_none_iff_forall_ne_some.2 ?_
      exact fun value found => nothing text set value ((grammar text value).1 found)
    rw [made, Settings.given, unread, Option.getD_none, kept]
  alone lookup other same := by
    rw [made, made, Settings.given, Settings.given, same]

theorem decides_viewport :
    Decides "SCENE_VIEWPORT" IsSize
      (fun asked sides => IsNearest IsSide asked.1 sides.1 ∧ IsNearest IsSide asked.2 sides.2)
      fun settings => (settings.viewportWidth, settings.viewportHeight) :=
  decides_of_eq (Prod.map (between 1 longestSide) (between 1 longestSide))
    (fun _ => rfl) (fun _ _ => viewportLiteral_eq_some_iff)
    (fun _ _ _ => ⟨isNearest_between _, isNearest_between _⟩) (by decide)

/-- The variables for counts differ in their names and fields only. -/
theorem decides_count {name : String} {field : Settings → Nat} {usual : Nat}
    (made : ∀ lookup, field (ofEnvironment lookup) =
      max (given lookup name (fun text => literal UInt64.size text.toList) usual) 1)
    (kept : max usual 1 = field {}) :
    Decides name (IsLiteral UInt64.size) (IsNearest IsCount) field :=
  decides_of_eq (max · 1) made (fun _ _ => literal_eq_some_iff)
    (fun _ _ isLiteral => isNearest_max isLiteral.small) kept

theorem decides_colour : Decides "SCENE_CLEAR_COLOR" IsColour Eq clearColour :=
  decides_of_eq id (fun _ => rfl) (fun _ _ => colourLiteral_eq_some_iff)
    (fun _ _ _ => rfl) rfl

theorem decides_frameInterval :
    Decides "SCENE_FRAME_INTERVAL_MS" (IsLiteral UInt64.size) (IsNearest IsCount) frameInterval :=
  decides_count (fun _ => rfl) rfl

theorem decides_depthLimit :
    Decides "SCENE_MAX_SCRIPT_DEPTH" (IsLiteral UInt64.size) (IsNearest IsCount) depthLimit :=
  decides_count (fun _ => rfl) rfl

theorem decides_idleFrames :
    Decides "SCENE_SHADER_IDLE_FRAMES" (IsLiteral UInt64.size) (IsNearest IsCount) idleFrames :=
  decides_count (fun _ => rfl) rfl

/-- A count is in range, whatever its variable says. -/
theorem Decides.isCount {name : String} {field : Settings → Nat}
    (decides : Decides name (IsLiteral UInt64.size) (IsNearest IsCount) field)
    (usual : IsCount (field {})) (lookup : String → Option String) :
    IsCount (field (ofEnvironment lookup)) := by
  by_cases asks : ∃ text, lookup name = some text ∧ ∃ asked, IsLiteral UInt64.size text.toList asked
  · obtain ⟨text, set, asked, denoted⟩ := asks
    exact (decides.given lookup text asked set denoted).within
  · rw [decides.missing lookup fun text set asked denoted => asks ⟨text, set, asked, denoted⟩]
    exact usual

/-! ### Settings written out -/

/-- The settings that an environment can ask for. There is no variable for the name of the
thread. -/
structure IsSpellable (settings : Settings) : Prop where
  width : IsSide settings.viewportWidth
  height : IsSide settings.viewportHeight
  frameInterval : IsCount settings.frameInterval
  depthLimit : IsCount settings.depthLimit
  idleFrames : IsCount settings.idleFrames
  threadName : settings.threadName = ({} : Settings).threadName

theorem IsSpellable.isUsable {settings : Settings} (spellable : settings.IsSpellable) :
    settings.IsUsable where
  width := spellable.width
  height := spellable.height
  frameInterval := spellable.frameInterval.1
  depthLimit := spellable.depthLimit.1
  idleFrames := spellable.idleFrames.1
  threadName := by
    rw [spellable.threadName]
    decide

theorem isSpellable_ofEnvironment (lookup : String → Option String) :
    (ofEnvironment lookup).IsSpellable where
  width := (isUsable_ofEnvironment lookup).width
  height := (isUsable_ofEnvironment lookup).height
  frameInterval := decides_frameInterval.isCount (by decide) lookup
  depthLimit := decides_depthLimit.isCount (by decide) lookup
  idleFrames := decides_idleFrames.isCount (by decide) lookup
  threadName := rfl

/-- Settings are spelled in decimal in an environment, whatever else it holds. -/
structure Spelled (settings : Settings) (lookup : String → Option String) : Prop where
  viewport : lookup "SCENE_VIEWPORT" =
    some (toString settings.viewportWidth ++ "x" ++ toString settings.viewportHeight)
  frameInterval : lookup "SCENE_FRAME_INTERVAL_MS" = some (toString settings.frameInterval)
  clearColour : lookup "SCENE_CLEAR_COLOR" =
    some (",".intercalate (settings.clearColour.toList.map fun channel => toString channel.toNat))
  depthLimit : lookup "SCENE_MAX_SCRIPT_DEPTH" = some (toString settings.depthLimit)
  idleFrames : lookup "SCENE_SHADER_IDLE_FRAMES" = some (toString settings.idleFrames)

/-- The environment that spells settings and holds nothing else. -/
def spelling (settings : Settings) : String → Option String
  | "SCENE_VIEWPORT" =>
      some (toString settings.viewportWidth ++ "x" ++ toString settings.viewportHeight)
  | "SCENE_FRAME_INTERVAL_MS" => some (toString settings.frameInterval)
  | "SCENE_CLEAR_COLOR" =>
      some (",".intercalate (settings.clearColour.toList.map fun channel => toString channel.toNat))
  | "SCENE_MAX_SCRIPT_DEPTH" => some (toString settings.depthLimit)
  | "SCENE_SHADER_IDLE_FRAMES" => some (toString settings.idleFrames)
  | _ => none

theorem spelled_spelling (settings : Settings) : settings.Spelled settings.spelling :=
  ⟨rfl, rfl, rfl, rfl, rfl⟩

theorem isPaddedLiteral_toString {bound n : Nat} (small : n < bound) :
    IsPaddedLiteral bound (toString n).toList n :=
  ⟨[], _, [], (List.append_nil _).symm, nofun, nofun, isLiteral_toString small⟩

theorem isSize_toString {width height : Nat} (wide : IsSide width) (high : IsSide height) :
    IsSize (toString width ++ "x" ++ toString height).toList (width, height) := by
  have small : longestSide < UInt32.size := by decide
  refine ⟨_, 'x', _, ?_, .inl rfl, isPaddedLiteral_toString (wide.2.trans_lt small),
    isPaddedLiteral_toString (high.2.trans_lt small)⟩
  simp

theorem isColour_toString (colour : Colour) :
    IsColour (",".intercalate (colour.toList.map fun channel => toString channel.toNat)).toList
      colour := by
  have literals : ∀ channel : UInt8,
      IsPaddedLiteral UInt8.size (toString channel.toNat).toList channel.toNat := fun channel =>
    isPaddedLiteral_toString channel.toNat_lt_size
  refine ⟨colour.toList, ?_, .inr rfl⟩
  have whole : (",".intercalate
        (colour.toList.map fun channel => toString channel.toNat)).toList.splitOn ',' =
      colour.toList.map fun channel => (toString channel.toNat).toList := by
    rw [String.toList_intercalate, List.map_map]
    refine List.splitOn_intercalate ',' ?_ (by simp [Colour.toList])
    intro piece member comma
    obtain ⟨channel, -, rfl⟩ := List.mem_map.1 member
    exact ((isLiteral_toString channel.toNat_lt_size).plain comma).2.2 rfl
  rw [whole, List.forall₂_map_left_iff]
  exact List.forall₂_same.2 fun channel _ => literals channel

/-- A count that is spelled is the nearest one to itself. -/
theorem Decides.count {name : String} {field : Settings → Nat} {n : Nat}
    {lookup : String → Option String}
    (decides : Decides name (IsLiteral UInt64.size) (IsNearest IsCount) field)
    (spelled : lookup name = some (toString n)) (count : IsCount n) :
    field (ofEnvironment lookup) = n :=
  (decides.given lookup _ n spelled (isLiteral_toString count.2)).eq_of_within count

theorem ofEnvironment_of_spelled {settings : Settings} {lookup : String → Option String}
    (spelled : settings.Spelled lookup) (spellable : settings.IsSpellable) :
    ofEnvironment lookup = settings := by
  obtain ⟨width, height, frameInterval, depthLimit, idleFrames, threadName⟩ := spellable
  obtain ⟨nearWidth, nearHeight⟩ :=
    decides_viewport.given lookup _ _ spelled.viewport (isSize_toString width height)
  exact Settings.ext (nearWidth.eq_of_within width) (nearHeight.eq_of_within height)
    (decides_frameInterval.count spelled.frameInterval frameInterval)
    (decides_colour.given lookup _ _ spelled.clearColour (isColour_toString _)).symm
    (decides_depthLimit.count spelled.depthLimit depthLimit)
    (decides_idleFrames.count spelled.idleFrames idleFrames) threadName.symm

/-- **The environment decides each field by one variable, and settings that are spelled in it are
read back.** Whatever the variables hold, all settings are in range, so clamping them again changes
nothing. The viewport, the frame interval, the depth limit, the number of idle frames and the clear
colour have a variable each: what its text denotes is brought to the nearest value in range, both
sides of the viewport or neither, and without such a text the usual value stays. All settings in
range that are written in decimal are read as they are. If only the viewport and the frame interval
are unusual, these are the settings made of them in code. -/
theorem environment_decides_settings :
    (∀ lookup, (ofEnvironment lookup).IsSpellable ∧
      (ofEnvironment lookup).clamped = ofEnvironment lookup) ∧
    (Decides "SCENE_VIEWPORT" IsSize
        (fun asked sides => IsNearest IsSide asked.1 sides.1 ∧ IsNearest IsSide asked.2 sides.2)
        (fun settings => (settings.viewportWidth, settings.viewportHeight)) ∧
      Decides "SCENE_FRAME_INTERVAL_MS" (IsLiteral UInt64.size) (IsNearest IsCount)
        frameInterval ∧
      Decides "SCENE_MAX_SCRIPT_DEPTH" (IsLiteral UInt64.size) (IsNearest IsCount) depthLimit ∧
      Decides "SCENE_SHADER_IDLE_FRAMES" (IsLiteral UInt64.size) (IsNearest IsCount)
        idleFrames ∧
      Decides "SCENE_CLEAR_COLOR" IsColour Eq clearColour) ∧
    ∀ (settings : Settings) lookup, settings.IsSpellable → settings.Spelled lookup →
      ofEnvironment lookup = settings ∧ settings.clamped = settings ∧
        (settings.clearColour = ({} : Settings).clearColour →
          settings.depthLimit = ({} : Settings).depthLimit →
          settings.idleFrames = ({} : Settings).idleFrames →
          ofEnvironment lookup = ofViewport settings.viewportWidth settings.viewportHeight
            settings.frameInterval) := by
  refine ⟨fun lookup => ?_, ⟨decides_viewport, decides_frameInterval, decides_depthLimit,
    decides_idleFrames, decides_colour⟩, fun settings lookup spellable spelled => ?_⟩
  · have spellable := isSpellable_ofEnvironment lookup
    exact ⟨spellable, spellable.isUsable.clamped_eq⟩
  · have read := ofEnvironment_of_spelled spelled spellable
    have kept := spellable.isUsable.clamped_eq
    refine ⟨read, kept, fun clearColour depthLimit idleFrames => ?_⟩
    have made : settings =
        { viewportWidth := settings.viewportWidth
          viewportHeight := settings.viewportHeight
          frameInterval := settings.frameInterval } :=
      Settings.ext rfl rfl rfl clearColour depthLimit idleFrames spellable.threadName
    calc ofEnvironment lookup
      _ = settings.clamped := read.trans kept.symm
      _ = ofViewport settings.viewportWidth settings.viewportHeight settings.frameInterval :=
          congrArg clamped made

/-- Settings at the ends of their ranges are read back from their spelling. -/
theorem environment_decides_settings_at_the_ends :
    let settings : Settings :=
      { viewportWidth := 1, viewportHeight := longestSide, frameInterval := UInt64.size - 1 }
    settings.IsSpellable ∧ settings.Spelled settings.spelling ∧
      ofEnvironment settings.spelling = settings ∧
      ofEnvironment settings.spelling = ofViewport 1 longestSide (UInt64.size - 1) := by
  intro settings
  have spellable : settings.IsSpellable :=
    ⟨⟨by decide, by decide⟩, ⟨by decide, by decide⟩, by decide, by decide, by decide, rfl⟩
  have spelled := spelled_spelling settings
  obtain ⟨read, -, made⟩ := environment_decides_settings.2.2 settings _ spellable spelled
  exact ⟨spellable, spelled, read, made rfl rfl rfl⟩

end Settings

end ScenePlayer
