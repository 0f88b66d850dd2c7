import ScenePlayer.Proofs.Player.Publication
import ScenePlayer.Proofs.Scene.Refusals
import ScenePlayer.Proofs.Scene.Repetition

/-!
What the queue of a player amounts to. Payloads are decoded when a call is made and the
commands are carried out later, between ticks. However the ticks fall, a player that has
been shut down holds the scene that direct calls leave, on any screen whose frames keep
the sizes of surfaces (`Player.Serves`). On a raster the surface has the size that was
asked for last, whoever paints (`service_carries_out_calls`). Callers get the answers
that a scene gives at once, and refused calls might as well have been made. Unlike for
what is published (`Player.Tracks`), text does no harm here: it draws differently with
other fonts loaded, but it does not change the size of the surface.
-/

namespace ScenePlayer

variable {σ S : Type} {screen : Screen σ S} {decoder : ImageDecoder}

/-! ### Answers -/

/-- How a scene answers to a call that is carried out on the spot. Calls that are not for
the scene, and those that it cannot refuse, succeed. -/
def Scene.answer (decoder : ImageDecoder) (scene : Scene S) : Call → Except CallError Unit
  | .submit id bytes => (scene.submit id bytes).1.mapError .script
  | .submitBatch entries => (scene.submitBatch entries).1.mapError .script
  | .putImage id bytes => (scene.putImage decoder id bytes).1.mapError .asset
  | .putStream id format width height bytes =>
      (scene.putStream decoder id format width height bytes).1.mapError .asset
  | .putFont id bytes => (scene.putFont id bytes).1.mapError .asset
  | _ => .ok ()

/-- The answer of a scene is whether there is a command. -/
theorem Scene.answer_eq (decoder : ImageDecoder) (scene : Scene S) (made : Call) :
    scene.answer decoder made = (made.command decoder).map fun _ => () := by
  have put : ∀ (id : String) (asset : Except AssetError Asset),
      (scene.putAsset id asset).1.mapError .asset =
        (Call.putCommand id asset).map fun _ => () := by
    intro id asset
    cases asset <;> rfl
  cases made with
  | submit id bytes =>
      simp only [answer, submit, ScriptStore.putEncoded, Call.command]
      cases decode bytes <;> rfl
  | submitBatch entries =>
      simp only [answer, submitBatch, Call.command]
      cases decodeBatch entries <;> rfl
  | putImage id bytes => exact put id _
  | putStream id format width height bytes => exact put id _
  | putFont id bytes => exact put id _
  | _ => rfl

/-- A player answers to a call as any scene does on which it is made directly. -/
theorem Player.call_answer (screen : Screen σ S) (decoder : ImageDecoder) (player : Player σ S)
    (scene : Scene S) (made : Call) :
    (player.call screen decoder made).1 = scene.answer decoder made := by
  rw [scene.answer_eq, Player.call]
  cases made.command decoder <;> rfl

/-- A refused call changes nothing where it is made directly. -/
theorem Easel.carry_of_refused {made : Call} {error : CallError}
    (refused : made.command decoder = .error error) (easel : Easel σ S) :
    easel.carry screen decoder made = easel := by
  have unanswered : ∀ {E : Type} {answer : Except E Unit} {wrap : E → CallError},
      answer.mapError wrap = .error error → answer.isOk = false := by
    intro E answer wrap failed
    cases answer with
    | ok done => cases failed
    | error reason => rfl
  have answer := easel.scene.answer_eq decoder made
  rw [refused] at answer
  cases made with
  | submit id bytes =>
      exact congrArg (Easel.mk · easel.surface) (Scene.submit_of_refused (unanswered answer))
  | submitBatch entries =>
      exact congrArg (Easel.mk · easel.surface) (Scene.submitBatch_of_refused (unanswered answer))
  | putImage id bytes =>
      exact congrArg (Easel.mk · easel.surface) (Scene.putAsset_of_refused (unanswered answer))
  | putStream id format width height bytes =>
      exact congrArg (Easel.mk · easel.surface) (Scene.putAsset_of_refused (unanswered answer))
  | putFont id bytes =>
      exact congrArg (Easel.mk · easel.surface) (Scene.putAsset_of_refused (unanswered answer))
  | _ => cases refused

/-- The call that a request makes. -/
def Request.call? : Request → Option Call
  | .call made => some made
  | .flush => none

/-- A new easel on which calls were made directly, whatever it answered. -/
def Easel.ofCalls (screen : Screen σ S) (decoder : ImageDecoder) (settings : Settings)
    (calls : List Call) : Except CanvasError (Easel σ S) :=
  (Easel.create screen settings).map (calls.foldl (Easel.carry screen decoder))

theorem Easel.carry_accepted (screen : Screen σ S) (decoder : ImageDecoder)
    (requests : List Request) (easel : Easel σ S) :
    (requests.filterMap (Request.accepted? decoder)).foldl (Easel.carry screen decoder) easel =
      (requests.filterMap Request.call?).foldl (Easel.carry screen decoder) easel := by
  induction requests generalizing easel with
  | nil => rfl
  | cons first rest ih =>
      cases first with
      | flush => exact ih easel
      | call made =>
          have called : Request.call? (.call made) = some made := rfl
          rw [List.filterMap_cons_some called, List.foldl_cons]
          cases accepted : made.command decoder with
          | error error =>
              have refused : Request.accepted? decoder (.call made) = none := by
                rw [Request.accepted?, accepted]
                rfl
              rw [List.filterMap_cons_none refused, easel.carry_of_refused accepted]
              exact ih easel
          | ok command =>
              have taken : Request.accepted? decoder (.call made) = some made := by
                rw [Request.accepted?, accepted]
                rfl
              rw [List.filterMap_cons_some taken]
              exact ih _

/-! ### Sizes -/

section Steady

variable {stage : Stage σ S} {accepts : ShaderSource → Bool} {Fits : σ → Prop}
  (steady : stage.canvas.Steady accepts Fits)

include steady

/-- What the draws and the building of shaders keep, a walk keeps. -/
theorem Stage.fits_walk (levels : Nat) (script : Script) {pass : Pass σ S}
    (fits : Fits pass.surface) : Fits (stage.walk levels script pass).surface := by
  let traced : Pass (σ × Trace S) S := { pass with surface := (pass.surface, []) }
  have fitting : Fits traced.surface.1 := fits
  have walked := ((stage.tracing.action_walk levels script).keeps steady fitting).1
  have seen : (stage.tracing.walk levels script traced).view Prod.fst =
      stage.walk levels script pass := view_walk stage.canvas.shows_tracing levels script traced
  exact congrArg Pass.surface seen ▸ walked

/-- What all operations of a canvas keep, a replay keeps. -/
theorem Stage.fits_replay
    (ends : ∀ surface, Fits surface → Fits (stage.canvas.endFrame surface).2) (clear : Colour)
    (shaders : ShaderCache S) {surface : σ} (fits : Fits surface) :
    Fits (stage.replay clear shaders surface).2.2 := by
  have begins := steady.beginFrame clear surface fits
  unfold replay
  cases stage.scripts.root with
  | none => exact fits
  | some root =>
      dsimp only [run]
      cases stage.scripts.find? root with
      | none => exact fits
      | some script =>
          dsimp only
          generalize stage.canvas.beginFrame clear surface = opening at begins ⊢
          rcases opening with ⟨error | done, opened⟩
          · exact begins
          · let pass : Pass σ S := { surface := opened, shaders }
            have fitting : Fits pass.surface := begins
            have ended := ends _ (Stage.fits_walk steady (stage.depthLimit - 1) script fitting)
            dsimp only
            generalize stage.canvas.endFrame _ = closing at ended ⊢
            rcases closing with ⟨error | done, closed⟩ <;> exact ended

end Steady

/-- What all operations of a canvas keep, a redraw keeps. -/
theorem Scene.fits_redrawIfDirty {canvas : Canvas σ S} {accepts : ShaderSource → Bool}
    {Fits : σ → Prop} (steady : canvas.Steady accepts Fits)
    (ends : ∀ surface, Fits surface → Fits (canvas.endFrame surface).2) (scene : Scene S)
    {surface : σ} (fits : Fits surface) : Fits (scene.redrawIfDirty canvas surface).2.2 := by
  unfold redrawIfDirty
  rcases scene.redraw.take with ⟨_ | changes, redraw⟩
  · exact fits
  · let stage : Stage σ S := Scene.stage canvas { scene with redraw }
    have replayed : Fits (stage.replay scene.clearColour scene.shaders surface).2.2 :=
      Stage.fits_replay steady ends _ _ fits
    dsimp only [replayFrame]
    generalize Stage.replay _ _ _ _ = outcome at replayed ⊢
    rcases outcome with ⟨(_ | _) | _, shaders, after⟩ <;> exact replayed

/-- A screen whose frames keep the sizes of surfaces, texts included. -/
structure Screen.Keeps (screen : Screen σ S) (accepts : ShaderSource → Bool)
    (size : σ → Nat × Nat) : Prop extends screen.Resizes size where
  steady : ∀ extent, screen.canvas.Steady accepts fun surface => size surface = extent
  endFrame : ∀ surface, size (screen.canvas.endFrame surface).2 = size surface

theorem Screen.Keeps.size_redrawIfDirty {accepts : ShaderSource → Bool} {size : σ → Nat × Nat}
    (keeps : screen.Keeps accepts size) (scene : Scene S) (surface : σ) :
    size (scene.redrawIfDirty screen.canvas surface).2.2 = size surface :=
  Scene.fits_redrawIfDirty (keeps.steady (size surface))
    (fun drawn sized => (keeps.endFrame drawn).trans sized) scene rfl

/-! ### Serving the queue -/

namespace Player

/-- A player has carried out what an easel has, apart from frames. -/
structure Serves (size : σ → Nat × Nat) (player : Player σ S) (easel : Easel σ S) : Prop where
  rooted : player.scene.scripts.Rooted
  same : player.easel.Matches size easel
  counted : player.scripts = easel.scene.scripts.size

variable {accepts : ShaderSource → Bool} {size : σ → Nat × Nat} {player : Player σ S}
  {easel : Easel σ S}

theorem Serves.perform (resizes : screen.Resizes size) (serves : player.Serves size easel)
    (command : Command) :
    (player.perform screen command).Serves size (easel.perform screen command) := by
  have same := matches_perform resizes serves.same command
  refine ⟨?_, same, scripts_perform same⟩
  rcases command.edit_or_resize screen (fun _ => .error []) with
    ⟨edit, -, played, -⟩ | ⟨width, height, rfl⟩
  · rw [played]
    exact (player.scene.edited_edit _ edit).rooted serves.rooted
  · have kept := (alike_resize screen width height player).scripts
    exact kept.symm ▸ serves.rooted

/-- A tick draws, and leaves everything else to the commands. -/
theorem Serves.tick (keeps : screen.Keeps accepts size) (serves : player.Serves size easel) :
    (player.tick screen).Serves size easel := by
  have sized := keeps.size_redrawIfDirty player.scene player.surface
  obtain ⟨rooted, same, counted⟩ := serves
  have redraw := Scene.redraw_redrawIfDirty screen.canvas rooted player.surface
  unfold Player.tick
  generalize player.scene.redrawIfDirty screen.canvas player.surface = outcome at redraw sized ⊢
  cases redraw with
  | idle => exact ⟨rooted, same, counted⟩
  | _ => exact ⟨rooted, ⟨same.alike.unseen _ _, sized.trans same.size⟩, counted⟩

theorem Serves.serve (keeps : screen.Keeps accepts size) (events : List Event)
    {player : Player σ S} {easel : Easel σ S} (serves : player.Serves size easel)
    (running : .shutdown ∉ events) :
    (Player.serve screen events player).Serves size (easel.follow screen events) := by
  induction events generalizing player easel with
  | nil => exact serves
  | cons first rest ih =>
      have restRunning : .shutdown ∉ rest := fun member =>
        running (List.mem_cons_of_mem first member)
      cases first with
      | command command => exact ih (serves.perform keeps.toResizes command) restRunning
      | tick => exact ih (serves.tick keeps) restRunning
      | flush => exact ih (serves.tick keeps) restRunning
      | shutdown => exact absurd List.mem_cons_self running

/-- However ticks fall among what requests have put into a queue, the player has carried out
what a new easel has on which the calls were made directly. -/
theorem serves_requests (keeps : screen.Keeps accepts size) {settings : Settings}
    {player : Player σ S} (created : Player.create screen settings = .ok player)
    {requests : List Request} {served : List Event}
    (queued : served.filter (· ≠ .tick) = requests.filterMap (Request.event? decoder)) :
    ∃ easel, Easel.ofCalls screen decoder settings (requests.filterMap Request.call?) =
        .ok easel ∧
      Easel.ofRequests screen decoder settings requests = .ok easel ∧
      (Player.serve screen served player).Serves size easel := by
  obtain ⟨easel, easelCreated, same, rooted, counted⟩ :
      ∃ easel, Easel.create screen settings = .ok easel ∧ player.easel.Matches size easel ∧
        player.scene.scripts.Rooted ∧ player.scripts = easel.scene.scripts.size := by
    obtain ⟨easel, easelCreated, tracks⟩ := tracks_create (fun _ => none) size created
    exact ⟨easel, easelCreated, tracks.same, tracks.proper.rooted, tracks.counted⟩
  have serves := Serves.serve keeps served ⟨rooted, same, counted⟩ (Request.running queued)
  rw [← easel.follow_filter, queued, easel.follow_requests, easel.carry_accepted] at serves
  refine ⟨_, ?_, ?_, serves⟩
  · rw [Easel.ofCalls, easelCreated]
    rfl
  · rw [Easel.ofRequests, easelCreated]
    exact congrArg Except.ok (easel.carry_accepted screen decoder requests)

end Player

/-! ### Raster surfaces -/

section Raster

variable {G τ : Type}

/-- The size that a call gives to a surface. Sizes that no surface can have are not given. -/
def Call.size? : Call → Option (Nat × Nat)
  | .resize width height => if Picture.isPaintable width height then some (width, height) else none
  | _ => none

/-- The size given last, which is `size` if none is given. -/
def lastSize (size : Nat × Nat) (calls : List Call) : Nat × Nat :=
  ((calls.filterMap Call.size?).getLast?).getD size

theorem lastSize_cons (size : Nat × Nat) (first : Call) (rest : List Call) :
    lastSize size (first :: rest) = lastSize (first.size?.getD size) rest := by
  unfold lastSize
  cases given : first.size? with
  | none => rw [List.filterMap_cons_none given, Option.getD_none]
  | some size => rw [List.filterMap_cons_some given, List.getLast?_cons, Option.getD_some,
      Option.getD_some]

namespace Surface

variable (painter : Painter G τ)

/-- A draw keeps the size of a surface and the number of its pixels. -/
theorem shape_draw (call : CanvasCall (Shade G)) (surface : Surface τ) :
    ((canvas painter).draw call surface).shape = surface.shape := by
  cases call with
  | fill outline ink place => exact shape_paint painter surface place.clip _
  | stroke outline ink style place => exact shape_stroke painter surface outline ink style place
  | text run ink place => exact shape_text painter surface run ink place
  | sprite picture sprite place => exact shape_sprite painter surface picture sprite place
  | _ => rfl

/-- Whoever paints, the frames of a raster keep the sizes of surfaces. -/
theorem keeps_screen :
    (Surface.screen painter).Keeps (fun source => (painter.shade source).isSome) size where
  toResizes := resizes_screen painter
  steady extent :=
    { answers := fun _ _ _ => rfl
      buildShader := fun _ _ sized => sized
      beginFrame := fun _ _ sized => sized
      draw := fun call surface sized => by
        have same := shape_draw painter call surface
        have kept : ((canvas painter).draw call surface).size = surface.size :=
          Prod.ext (congrArg (·.1) same) (congrArg (·.2.1) same)
        exact kept.trans sized }
  endFrame _ := rfl

end Surface

namespace Easel

variable {painter : Painter G τ}

/-- A valid size is the size of the surface afterwards, and no other call has one. -/
theorem size_carry (easel : Easel (Surface τ) (Shade G)) (made : Call) :
    (easel.carry (Surface.screen painter) decoder made).surface.size =
      made.size?.getD easel.surface.size := by
  cases made with
  | resize width height =>
      refine (Surface.size_resize width height easel.surface).trans ?_
      rw [Call.size?]
      split <;> rfl
  | _ => rfl

theorem size_carried (calls : List Call) (easel : Easel (Surface τ) (Shade G)) :
    (calls.foldl (carry (Surface.screen painter) decoder) easel).surface.size =
      lastSize easel.surface.size calls := by
  induction calls generalizing easel with
  | nil => rfl
  | cons first rest ih => rw [List.foldl_cons, ih, size_carry, lastSize_cons]

/-- A new easel has the size that the settings give. -/
theorem size_ofCalls {settings : Settings} {calls : List Call}
    {easel : Easel (Surface τ) (Shade G)}
    (made : ofCalls (Surface.screen painter) decoder settings calls = .ok easel) :
    easel.surface.size = lastSize (settings.viewportWidth, settings.viewportHeight) calls := by
  simp only [ofCalls, create, Surface.screen, Surface.create, bind, Except.bind] at made
  split at made
  · cases made
  · rename_i surface created
    split at created
    · cases created
      cases made
      exact size_carried calls _
    · cases created

end Easel

end Raster

/-- **A player carries out the calls that it has accepted, and no others.** Whoever paints
on its surface, and whatever decodes images: let calls and flushes be requested of a new
player, let ticks fall among what they have put into the queue, and let the player be shut
down then, whatever comes later in the queue. It has the scripts, with their generations
and the root, the assets, with their stamps, and the clear colour of an easel on which the
same calls were made directly. Its surface has the size that was given last, and its number
of scripts is that of the distinct identifiers stored. Whether the refused calls are made as
well makes no difference to the easel, and each call is answered as on the easel. -/
theorem service_carries_out_calls {G τ : Type} (painter : Painter G τ) (decoder : ImageDecoder)
    (settings : Settings) (player : Player (Surface τ) (Shade G))
    (created : Player.create (Surface.screen painter) settings = .ok player)
    (requests : List Request) (served : List Event)
    (queued : served.filter (· ≠ .tick) = requests.filterMap (Request.event? decoder))
    (later : List Event) :
    let screen := Surface.screen painter
    let done := Player.serve screen (served ++ .shutdown :: later) player
    let calls := requests.filterMap Request.call?
    ∃ easel, Easel.ofCalls screen decoder settings calls = .ok easel ∧
      Easel.ofRequests screen decoder settings requests = .ok easel ∧
      done = Player.serve screen served player ∧
      done.scene.scripts = easel.scene.scripts ∧
      done.scene.assets = easel.scene.assets ∧
      done.scene.clearColour = easel.scene.clearColour ∧
      (done.surface.width, done.surface.height) =
        lastSize (settings.viewportWidth, settings.viewportHeight) calls ∧
      (done.scripts = done.scene.scripts.ids.length ∧ done.scene.scripts.ids.Nodup ∧
        ∀ id, id ∈ done.scene.scripts.ids ↔ done.scene.scripts.contains id = true) ∧
      ∀ (before : Player (Surface τ) (Shade G)) (scene : Scene (Shade G)) (made : Call),
        (before.call screen decoder made).1 = scene.answer decoder made := by
  intro screen done calls
  have ended : done = Player.serve screen served player :=
    Player.serve_append screen served _ (Request.running queued) player
  obtain ⟨easel, ofCalls, ofRequests, serves⟩ :=
    Player.serves_requests (Surface.keeps_screen painter) created queued
  rw [← ended] at serves
  have size : done.surface.size = easel.surface.size := serves.same.size
  refine ⟨easel, ofCalls, ofRequests, ended, serves.same.alike.scripts,
    serves.same.alike.assets, serves.same.alike.clearColour,
    size.trans (Easel.size_ofCalls ofCalls), ⟨?_, done.scene.scripts.scripts.distinct, ?_⟩,
    fun before scene made => before.call_answer screen decoder scene made⟩
  · rw [serves.counted, ← serves.same.alike.scripts]
    exact (List.length_map _).symm
  · exact fun id => (Table.contains_iff _ id).symm

/-- Of the calls, a bad batch, an empty font and a broken image are refused, and a size that
no surface has changes nothing. Ticks fall among the commands, and a size is asked for after
the end. -/
theorem service_carries_out_calls_of_mixture :
    let screen := Surface.screen .crisp
    let decoder : ImageDecoder := fun bytes =>
      if bytes = [] then .error ["no data"] else .ok ⟨1, 1, #[Colour.black], rfl⟩
    let settings : Settings := { viewportWidth := 1, viewportHeight := 1 }
    let player : Player (Surface FontShelf) (Shade Ramp) :=
      { scene := Scene.ofConfig settings.scene, surface := { picture := .filled 1 1 .clear } }
    let calls : List Call :=
      [.submit rootId [0, 0x40, 0, 0], .submitBatch [("a", []), ("cut", [0])], .putFont "g" [],
        .putImage "tile" [0], .putImage "tile" [], .resize 2 1, .resize 0 5,
        .submitBatch [("a", []), ("b", [])], .delete "a"]
    let requests : List Request := .flush :: calls.map .call
    let served : List Event :=
      [.flush, .command (.submit rootId [.pushState]), .tick,
        .command (.putAsset "tile" (.image ⟨1, 1, #[⟨0, 0, 0, 255⟩]⟩)), .command (.resize 2 1),
        .command (.resize 0 5), .tick, .tick, .command (.submitBatch [("a", []), ("b", [])]),
        .command (.delete "a"), .tick]
    let events := served ++ .shutdown :: [.command (.resize 3 3)]
    Player.create screen settings = .ok player ∧
      served.filter (· ≠ .tick) = requests.filterMap (Request.event? decoder) ∧
      ∃ easel, Easel.ofCalls screen decoder settings calls = .ok easel ∧
        (Player.serve screen events player).scene.scripts = easel.scene.scripts ∧
        (Player.serve screen events player).scene.assets = easel.scene.assets ∧
        ((Player.serve screen events player).surface.width,
          (Player.serve screen events player).surface.height) = (2, 1) ∧
        (Player.serve screen events player).scripts = 2 := by
  intro screen decoder settings player calls requests served events
  have created : Player.create screen settings = .ok player := rfl
  have queued : served.filter (· ≠ .tick) = requests.filterMap (Request.event? decoder) := by
    decide +kernel
  have called : requests.filterMap Request.call? = calls := rfl
  have last : lastSize (settings.viewportWidth, settings.viewportHeight) calls = (2, 1) := by
    decide +kernel
  have two : (Player.serve screen events player).scene.scripts.ids.length = 2 := by
    decide +kernel
  have service := service_carries_out_calls .crisp decoder settings player created requests served
    queued [.command (.resize 3 3)]
  dsimp only at service
  -- Without its value, the player is not evaluated again.
  generalize Player.serve screen events player = done at service two ⊢
  rw [called] at service
  obtain ⟨easel, direct, -, -, scripts, assets, -, size, ⟨counted, -, -⟩, -⟩ := service
  exact ⟨created, queued, easel, direct, scripts, assets, size.trans last, counted.trans two⟩

end ScenePlayer
