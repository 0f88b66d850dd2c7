import ScenePlayer.Proofs.Player.Easel
import ScenePlayer.Proofs.Raster.Agreement
import ScenePlayer.Proofs.Scene.Redraw
import ScenePlayer.Raster.Crisp

/-!
What a player publishes. A player serves the commands of its queue in order, with
ticks between them whenever it is time for one. However the ticks fall, after a
flush the published frame is the one that an easel shows on which the accepted
calls were carried out on the spot and which draws once, on any screen that repeats
its frames (`Player.latest_of_flush`), and so on a raster, whoever paints
(`flush_publishes`). What carries this is `Tracks`: the player keeps up with the
easel, and as long as its scene is clean and has a root, the published frame is the
easel's.
-/

namespace ScenePlayer

variable {σ S : Type} {screen : Screen σ S} {decoder : ImageDecoder}
  {builds : ShaderSource → Option S} {size : σ → Nat × Nat} {Agree : Nat × Nat → σ → σ → Prop}

namespace Player

def easel (player : Player σ S) : Easel σ S := ⟨player.scene, player.surface⟩

variable {player : Player σ S} {easel : Easel σ S}

/-! ### Commands -/

/-- A frame shows the same of a scene whose surface gets another size. -/
theorem alike_resize (screen : Screen σ S) (width height : Nat) (player : Player σ S) :
    Scene.Alike (player.resize screen width height).scene player.scene := by
  unfold Player.resize
  split
  · exact (Scene.Alike.refl player.scene).unseen _ _
  · exact .refl player.scene

theorem surface_resize (screen : Screen σ S) (width height : Nat) (player : Player σ S) :
    (player.resize screen width height).surface =
      (screen.resize width height player.surface).2 := by
  unfold Player.resize
  split <;> rename_i resized <;> rw [resized]

/-- A command does the same to a player and to an easel that match. -/
theorem matches_perform (resizes : screen.Resizes size) (same : player.easel.Matches size easel)
    (command : Command) :
    (player.perform screen command).easel.Matches size (easel.perform screen command) := by
  -- Commands bring decoded payloads, so any decoder will do.
  rcases command.edit_or_resize screen (fun _ => .error []) with
    ⟨edit, performed, played, -⟩ | ⟨width, height, rfl⟩
  · rw [performed, played]
    exact ⟨same.alike.edit _ edit, same.size⟩
  · refine ⟨(alike_resize screen width height player).trans same.alike, ?_⟩
    exact (congrArg size (surface_resize screen width height player)).trans
      (resizes.alike width height same.size).2

/-- A player counts the scripts after a command. -/
theorem scripts_perform {command : Command}
    (same : (player.perform screen command).easel.Matches size easel) :
    (player.perform screen command).scripts = easel.scene.scripts.size :=
  congrArg ScriptStore.size same.alike.scripts

/-! ### Keeping up -/

/-- A player keeps up with an easel, and what it has published is current. -/
structure Tracks (screen : Screen σ S) (builds : ShaderSource → Option S)
    (size : σ → Nat × Nat) (player : Player σ S) (easel : Easel σ S) : Prop where
  proper : player.easel.Proper builds
  easelProper : easel.Proper builds
  same : player.easel.Matches size easel
  counted : player.scripts = easel.scene.scripts.size
  shown : player.scene.isDirty = false → player.scene.scripts.contains rootId = true →
    player.latest = easel.frame? screen

section Step

variable (repeats : screen.Repeats builds size Agree)
  (tracks : player.Tracks screen builds size easel)

include repeats tracks

theorem Tracks.edit {edit : SceneEdit}
    (new : ∀ change, edit.script? = some change → change.Textless) :
    Tracks screen builds size { player with
        scene := player.scene.edit decoder edit
        scripts := (player.scene.edit decoder edit).scripts.size } (easel.edit decoder edit) := by
  have alike := tracks.same.alike.edit decoder edit
  have easelProper : (easel.edit decoder edit).Proper builds := tracks.easelProper.edit new
  refine ⟨tracks.proper.edit new, easelProper, ⟨alike, tracks.same.size⟩,
    congrArg ScriptStore.size alike.scripts, ?_⟩
  -- If the scene is still clean, neither it nor the easel has changed for a frame.
  intro clean stored
  obtain ⟨wasClean, kept⟩ :=
    (player.scene.edited_edit decoder edit).clean tracks.proper.rooted clean
  have wasStored : player.scene.scripts.contains rootId = true := by
    rw [← kept.scripts]
    exact stored
  have easelStored : easel.scene.scripts.contains rootId = true := by
    rw [← tracks.same.alike.scripts]
    exact wasStored
  have unchanged : easel.Matches size (easel.edit decoder edit) :=
    ⟨tracks.same.alike.symm.trans (kept.symm.trans alike), rfl⟩
  rw [← unchanged.frame repeats tracks.easelProper easelProper easelStored]
  exact tracks.shown wasClean wasStored

/-- A size that is refused changes nothing, and any other marks the scene. -/
theorem Tracks.resize (width height : Nat) :
    (player.perform screen (.resize width height)).Tracks screen builds size
      (easel.resize screen width height) := by
  have same := matches_perform repeats.toResizes tracks.same (.resize width height)
  have easelProper : (easel.resize screen width height).Proper builds :=
    tracks.easelProper.resize width height
  have answers : (screen.resize width height player.surface).1 =
      (screen.resize width height easel.surface).1 :=
    (repeats.alike width height tracks.same.size).1
  have proper : (player.perform screen (.resize width height)).easel.Proper builds := by
    obtain ⟨rooted, textless, coherent⟩ := tracks.proper
    simp only [Player.perform, Player.resize, Player.easel]
    split <;> exact ⟨rooted, textless, coherent⟩
  refine ⟨proper, easelProper, same, scripts_perform same, ?_⟩
  simp only [Player.perform, Player.resize]
  rcases resized : screen.resize width height player.surface with ⟨refused | done, surface⟩
  · rw [resized] at answers
    have unchanged : easel.resize screen width height = easel := by
      rw [Easel.resize, repeats.refused answers.symm]
    rw [unchanged]
    exact tracks.shown
  · exact nofun

theorem Tracks.perform {command : Command} (textless : command.Textless) :
    (player.perform screen command).Tracks screen builds size (easel.perform screen command) := by
  -- Commands bring decoded payloads, so any decoder will do.
  rcases command.edit_or_resize screen (fun _ => .error []) with
    ⟨edit, performed, played, new⟩ | ⟨width, height, rfl⟩
  · rw [performed, played]
    exact tracks.edit repeats (new textless)
  · exact tracks.resize repeats width height

/-- A tick leaves the scene clean. -/
theorem Tracks.tick :
    (player.tick screen).Tracks screen builds size easel ∧
      (player.tick screen).scene.isDirty = false := by
  have rooted : player.scene.scripts.Rooted := tracks.proper.rooted
  have redraw := Scene.redraw_redrawIfDirty screen.canvas rooted player.surface
  unfold Player.tick
  generalize player.scene.redrawIfDirty screen.canvas player.surface = outcome at redraw ⊢
  cases redraw with
  | idle clean => exact ⟨tracks, clean⟩
  | rootless dirty absent =>
      refine ⟨⟨⟨rooted, tracks.proper.textless, tracks.proper.coherent⟩, tracks.easelProper,
        ⟨tracks.same.alike.unseen _ _, tracks.same.size⟩, tracks.counted, ?_⟩, rfl⟩
      intro _ stored
      have present : player.scene.scripts.contains rootId = true := stored
      rw [absent] at present
      cases present
  | @drawn report shaders after dirty replayed =>
      have stored : player.scene.scripts.contains rootId = true :=
        Stage.stored_of_replay rooted (by rw [replayed]; rintro ⟨⟩)
      obtain ⟨_, _, _, drawn, shown, sized, coherent⟩ :=
        tracks.same.replay repeats tracks.proper tracks.easelProper stored
      cases replayed.symm.trans drawn
      exact ⟨⟨⟨rooted, tracks.proper.textless, coherent⟩, tracks.easelProper,
        ⟨tracks.same.alike.unseen _ _, sized.trans tracks.same.size⟩, tracks.counted,
        fun _ _ => shown.symm⟩, rfl⟩
  | failed dirty replayed =>
      -- The screen does not fail, so a replay with a root succeeds.
      have stored : player.scene.scripts.contains rootId = true :=
        Stage.stored_of_replay rooted (by rw [replayed]; rintro ⟨⟩)
      obtain ⟨_, _, _, drawn, -⟩ :=
        tracks.same.replay repeats tracks.proper tracks.easelProper stored
      cases replayed.symm.trans drawn

end Step

/-! ### Serving the queue -/

end Player

/-- Carry out the commands among events. -/
def Easel.follow (screen : Screen σ S) (easel : Easel σ S) (events : List Event) : Easel σ S :=
  events.foldl (fun easel event =>
    match event with
    | .command command => easel.perform screen command
    | _ => easel) easel

namespace Player

theorem Tracks.serve (repeats : screen.Repeats builds size Agree) (events : List Event)
    {player : Player σ S} {easel : Easel σ S} (tracks : player.Tracks screen builds size easel)
    (running : .shutdown ∉ events)
    (textless : ∀ command, .command command ∈ events → command.Textless) :
    (Player.serve screen events player).Tracks screen builds size (easel.follow screen events) := by
  induction events generalizing player easel with
  | nil => exact tracks
  | cons first rest ih =>
      have restRunning : .shutdown ∉ rest := fun member =>
        running (List.mem_cons_of_mem first member)
      have restTextless : ∀ command, .command command ∈ rest → command.Textless :=
        fun command member => textless command (List.mem_cons_of_mem first member)
      cases first with
      | command command =>
          exact ih (tracks.perform repeats (textless command List.mem_cons_self)) restRunning
            restTextless
      | tick => exact ih (tracks.tick repeats).1 restRunning restTextless
      | flush => exact ih (tracks.tick repeats).1 restRunning restTextless
      | shutdown => exact absurd List.mem_cons_self running

theorem Tracks.ticks (repeats : screen.Repeats builds size Agree) (number : Nat)
    {player : Player σ S} {easel : Easel σ S} (tracks : player.Tracks screen builds size easel)
    (clean : player.scene.isDirty = false) :
    (Player.serve screen (.replicate number .tick) player).Tracks screen builds size easel ∧
      (Player.serve screen (.replicate number .tick) player).scene.isDirty = false := by
  induction number generalizing player with
  | zero => exact ⟨tracks, clean⟩
  | succ number ih => exact ih (tracks.tick repeats).1 (tracks.tick repeats).2

theorem serve_append (screen : Screen σ S) (events later : List Event)
    (running : .shutdown ∉ events) (player : Player σ S) :
    Player.serve screen (events ++ later) player =
      Player.serve screen later (Player.serve screen events player) := by
  induction events generalizing player with
  | nil => rfl
  | cons first rest ih =>
      have restRunning : .shutdown ∉ rest := fun member =>
        running (List.mem_cons_of_mem first member)
      cases first with
      | shutdown => exact absurd List.mem_cons_self running
      | _ => exact ih restRunning _

end Player

/-! ### Requests -/

/-- What is asked of a player: to make a call, or to wait until all is shown. -/
inductive Request where
  | call (call : Call)
  | flush
  deriving DecidableEq, Repr

namespace Request

/-- What a request puts into the queue. A call that is refused puts nothing there. -/
def event? (decoder : ImageDecoder) : Request → Option Event
  | .call made => (made.command decoder).toOption.map .command
  | .flush => some .flush

/-- The call that a request makes, if it is accepted. -/
def accepted? (decoder : ImageDecoder) : Request → Option Call
  | .call made => if (made.command decoder).isOk then some made else none
  | .flush => none

theorem command_of_event? {request : Request} {command : Command}
    (queued : request.event? decoder = some (.command command)) :
    ∃ made : Call, request = .call made ∧ made.command decoder = .ok command := by
  cases request with
  | flush => cases queued
  | call made =>
      obtain ⟨accepted, isAccepted, ⟨⟩⟩ := Option.map_eq_some_iff.1 queued
      cases answer : made.command decoder with
      | error error =>
          rw [answer] at isAccepted
          cases isAccepted
      | ok command =>
          rw [answer] at isAccepted
          cases isAccepted
          exact ⟨made, rfl, answer⟩

theorem event?_ne_shutdown (request : Request) : request.event? decoder ≠ some .shutdown := by
  intro queued
  cases request with
  | flush => cases queued
  | call made =>
      obtain ⟨_, _, impossible⟩ := Option.map_eq_some_iff.1 queued
      cases impossible

/-- What requests put into a queue, ticks apart, does not shut the player down. -/
theorem running {requests : List Request} {served : List Event}
    (queued : served.filter (· ≠ .tick) = requests.filterMap (event? decoder)) :
    .shutdown ∉ served := by
  intro member
  have kept : .shutdown ∈ served.filter (· ≠ .tick) := List.mem_filter.2 ⟨member, by simp⟩
  rw [queued] at kept
  obtain ⟨request, -, event⟩ := List.mem_filterMap.1 kept
  exact request.event?_ne_shutdown event

/-- The commands among them are those of the accepted calls. -/
theorem made_of_served {requests : List Request} {served : List Event}
    (queued : served.filter (· ≠ .tick) = requests.filterMap (event? decoder))
    {command : Command} (member : .command command ∈ served) :
    ∃ made : Call, .call made ∈ requests ∧ made.command decoder = .ok command := by
  have kept : .command command ∈ served.filter (· ≠ .tick) :=
    List.mem_filter.2 ⟨member, by simp⟩
  rw [queued] at kept
  obtain ⟨request, asked, event⟩ := List.mem_filterMap.1 kept
  obtain ⟨made, rfl, accepted⟩ := command_of_event? event
  exact ⟨made, asked, accepted⟩

end Request

/-- No script that a call brings draws text. -/
def Call.Textless : Call → Prop
  | .submit _ bytes =>
      ∀ instructions, decode bytes = .ok instructions → ScenePlayer.Textless instructions
  | .submitBatch entries =>
      ∀ decoded, decodeBatch entries = .ok decoded → ∀ entry ∈ decoded, ScenePlayer.Textless entry.2
  | _ => True

theorem Call.Textless.command {call : Call} (textless : call.Textless) {command : Command}
    (accepted : call.command decoder = .ok command) : command.Textless := by
  have put : ∀ (id : String) (asset : Except AssetError Asset),
      Call.putCommand id asset = .ok command → command.Textless := by
    intro id asset stores
    cases asset with
    | error error => cases stores
    | ok asset =>
        cases stores
        trivial
  cases call with
  | submit id bytes =>
      simp only [Call.command] at accepted
      split at accepted
      · rename_i instructions decoded
        cases accepted
        exact textless instructions decoded
      · cases accepted
  | submitBatch entries =>
      simp only [Call.command] at accepted
      split at accepted
      · rename_i staged decoded
        cases accepted
        exact textless staged decoded
      · cases accepted
  | putImage id bytes => exact put id _ accepted
  | putStream id format width height bytes => exact put id _ accepted
  | putFont id bytes => exact put id _ accepted
  | _ =>
      cases accepted
      trivial

/-- A new easel on which the accepted calls were carried out in order. -/
def Easel.ofRequests (screen : Screen σ S) (decoder : ImageDecoder) (settings : Settings)
    (requests : List Request) : Except CanvasError (Easel σ S) :=
  (Easel.create screen settings).map
    ((requests.filterMap (Request.accepted? decoder)).foldl (Easel.carry screen decoder))

/-- Ticks are nothing to an easel. -/
theorem Easel.follow_filter (screen : Screen σ S) (events : List Event) (easel : Easel σ S) :
    easel.follow screen (events.filter (· ≠ .tick)) = easel.follow screen events := by
  unfold follow
  induction events generalizing easel with
  | nil => rfl
  | cons first rest ih => cases first <;> exact ih _

/-- What requests queue does what the accepted calls do. -/
theorem Easel.follow_requests (screen : Screen σ S) (decoder : ImageDecoder)
    (requests : List Request) (easel : Easel σ S) :
    easel.follow screen (requests.filterMap (Request.event? decoder)) =
      (requests.filterMap (Request.accepted? decoder)).foldl (Easel.carry screen decoder)
        easel := by
  unfold follow
  induction requests generalizing easel with
  | nil => rfl
  | cons first rest ih =>
      cases first with
      | flush => exact ih easel
      | call call =>
          cases accepted : call.command decoder with
          | error error =>
              have nothing : Request.event? decoder (.call call) = none := by
                rw [Request.event?, accepted]
                rfl
              have refused : Request.accepted? decoder (.call call) = none := by
                rw [Request.accepted?, accepted]
                rfl
              rw [List.filterMap_cons_none nothing, List.filterMap_cons_none refused]
              exact ih easel
          | ok command =>
              have queued : Request.event? decoder (.call call) = some (.command command) := by
                rw [Request.event?, accepted]
                rfl
              have taken : Request.accepted? decoder (.call call) = some call := by
                rw [Request.accepted?, accepted]
                rfl
              rw [List.filterMap_cons_some queued, List.filterMap_cons_some taken,
                List.foldl_cons, List.foldl_cons, easel.carry_of_command accepted]
              exact ih _

namespace Player

/-- A new player keeps up with a new easel. -/
theorem tracks_create (builds : ShaderSource → Option S) (size : σ → Nat × Nat)
    {settings : Settings} {player : Player σ S}
    (created : Player.create screen settings = .ok player) :
    ∃ easel, Easel.create screen settings = .ok easel ∧
      player.Tracks screen builds size easel := by
  simp only [Player.create, bind, Except.bind] at created
  split at created
  · cases created
  · rename_i surface isSurface
    cases created
    have easelCreated : Easel.create screen settings =
        .ok { scene := Scene.ofConfig settings.scene, surface } := by
      simp only [Easel.create, bind, Except.bind, isSurface]
      rfl
    have proper := Easel.proper_create builds easelCreated
    refine ⟨_, easelCreated, proper, proper, .refl _ _, rfl, ?_⟩
    rintro - ⟨⟩

/-- However ticks fall among what requests have put into a queue, the player keeps up with
an easel on which the accepted calls were carried out. -/
theorem tracks_requests (repeats : screen.Repeats builds size Agree) {settings : Settings}
    {player : Player σ S} (created : Player.create screen settings = .ok player)
    {requests : List Request} (textless : ∀ made, .call made ∈ requests → made.Textless)
    {served : List Event}
    (queued : served.filter (· ≠ .tick) = requests.filterMap (Request.event? decoder)) :
    ∃ easel, Easel.ofRequests screen decoder settings requests = .ok easel ∧
      (Player.serve screen served player).Tracks screen builds size easel := by
  obtain ⟨easel, easelCreated, start⟩ := tracks_create builds size created
  have tracks := start.serve repeats served (Request.running queued) fun command member => by
    obtain ⟨made, asked, accepted⟩ := Request.made_of_served queued member
    exact (textless made asked).command accepted
  rw [← easel.follow_filter, queued, easel.follow_requests] at tracks
  refine ⟨_, ?_, tracks⟩
  rw [Easel.ofRequests, easelCreated]
  rfl

/-- A flush publishes the frame that the easel shows, and no later tick another one. -/
theorem Tracks.flush (repeats : screen.Repeats builds size Agree) {player : Player σ S}
    {easel : Easel σ S} (tracks : player.Tracks screen builds size easel)
    (stored : player.scene.scripts.contains rootId = true) (ticks : Nat) :
    ∃ frame, easel.frame? screen = some frame ∧
      (Player.serve screen (.flush :: .replicate ticks .tick) player).latest = some frame ∧
      (Player.serve screen (.flush :: .replicate ticks .tick) player).scripts =
        easel.scene.scripts.size := by
  obtain ⟨flushed, clean⟩ := tracks.tick repeats
  obtain ⟨done, doneClean⟩ := flushed.ticks repeats ticks clean
  obtain ⟨_, _, after, -, shown, -⟩ :=
    tracks.same.replay repeats tracks.proper tracks.easelProper stored
  refine ⟨screen.frame after, shown, ?_, done.counted⟩
  rw [← shown]
  refine done.shown doneClean ?_
  have kept := done.same.alike.scripts.trans tracks.same.alike.scripts.symm
  exact (congrArg (·.contains rootId) kept).trans stored

end Player

/-- **A flush publishes the frame of the accepted calls.** Whoever paints on the surface of
a player, and whatever decodes images: however ticks fall among and after the commands of a
queue that ends with a flush, if a root is stored when the flush is served, then the frame
published last is the one that an easel shows on which the accepted calls were carried out.
The number of scripts is that of the easel, too. -/
theorem flush_publishes {G τ : Type} (painter : Painter G τ) (decoder : ImageDecoder)
    (settings : Settings) (player : Player (Surface τ) (Shade G))
    (created : Player.create (Surface.screen painter) settings = .ok player)
    (requests : List Request) (textless : ∀ made, .call made ∈ requests → made.Textless)
    (served : List Event)
    (queued : served.filter (· ≠ .tick) = requests.filterMap (Request.event? decoder))
    (stored : (Player.serve (Surface.screen painter) served player).scene.scripts.contains
      rootId = true) (ticks : Nat) :
    let screen := Surface.screen painter
    let done := Player.serve screen (served ++ .flush :: .replicate ticks .tick) player
    ∃ easel frame, Easel.ofRequests screen decoder settings requests = .ok easel ∧
      easel.frame? screen = some frame ∧ done.latest = some frame ∧
      done.scripts = easel.scene.scripts.size := by
  intro screen done
  obtain ⟨easel, carried, tracks⟩ :=
    Player.tracks_requests (Surface.repeats_screen painter) created textless queued
  obtain ⟨frame, shown, latest, counted⟩ :=
    tracks.flush (Surface.repeats_screen painter) stored ticks
  rw [← Player.serve_append _ served _ (Request.running queued)] at latest counted
  exact ⟨easel, frame, carried, shown, latest, counted⟩

/-- Of five requests, one is refused and one has an image read; two ticks fall among the
others and one after them. -/
theorem flush_publishes_between_ticks :
    let screen := Surface.screen .crisp
    let decoder : ImageDecoder := fun _ => .ok ⟨1, 1, #[Colour.black], rfl⟩
    let settings : Settings := { viewportWidth := 1, viewportHeight := 1 }
    let player : Player (Surface FontShelf) (Shade Ramp) :=
      { scene := Scene.ofConfig settings.scene, surface := { picture := .filled 1 1 .clear } }
    let requests : List Request :=
      [.call (.submit rootId [0, 0x40, 0, 0]), .call (.submit "cut" [0]), .flush,
        .call (.putImage "tile" [0]), .call (.setClearColour ⟨255, 0, 0, 255⟩)]
    let served : List Event :=
      [.tick, .command (.submit rootId [.pushState]), .flush,
        .command (.putAsset "tile" (.image ⟨1, 1, #[⟨0, 0, 0, 255⟩]⟩)),
        .command (.setClearColour ⟨255, 0, 0, 255⟩), .tick]
    let done := Player.serve screen (served ++ .flush :: .replicate 1 .tick) player
    Player.create screen settings = .ok player ∧
      (∀ made, .call made ∈ requests → made.Textless) ∧
      served.filter (· ≠ .tick) = requests.filterMap (Request.event? decoder) ∧
      (Player.serve screen served player).scene.scripts.contains rootId = true ∧
      ∃ easel frame, Easel.ofRequests screen decoder settings requests = .ok easel ∧
        easel.frame? screen = some frame ∧ done.latest = some frame ∧
        done.scripts = easel.scene.scripts.size := by
  intro screen decoder settings player requests served done
  have push : decode [0, 0x40, 0, 0] = .ok [.pushState] := by cbv
  have cut : decode [0] = .error ⟨0, .trailingByte⟩ := by cbv
  have created : Player.create screen settings = .ok player := rfl
  have textless : ∀ made, .call made ∈ requests → made.Textless := by
    intro made asked
    have cases : made = .submit rootId [0, 0x40, 0, 0] ∨ made = .submit "cut" [0] ∨
        made = .putImage "tile" [0] ∨ made = .setClearColour ⟨255, 0, 0, 255⟩ := by
      simpa [requests] using asked
    rcases cases with rfl | rfl | rfl | rfl
    · intro instructions decoded
      rw [push] at decoded
      cases decoded
      simp [Textless]
    · intro instructions decoded
      rw [cut] at decoded
      cases decoded
    · trivial
    · trivial
  have queued : served.filter (· ≠ .tick) = requests.filterMap (Request.event? decoder) := by
    decide +kernel
  have stored : (Player.serve screen served player).scene.scripts.contains rootId = true := by
    decide +kernel
  exact ⟨created, textless, queued, stored,
    flush_publishes .crisp decoder settings player created requests textless served queued
      stored 1⟩

end ScenePlayer
