import Mathlib.Data.Nat.Bitwise
import ScenePlayer.Proofs.Replay.Brackets
import ScenePlayer.Proofs.Replay.Inheritance

/-!
Shapes by way of the path. A shape draw paints what a fresh path with nothing but the shape in it
paints, if it is filled and stroked as the flags ask (`Shape.byPath`). A scissor clips as such a
path does (`Stage.draws_agree_with_path`).

The path that the shape leaves behind is nothing that a fill or a stroke of a given outline sees
(`Pass.IsDraw.through`). So the paints go by in step, one by one, if the shape has an outline
(`Stage.performs_paints`). If it has none, the draw does nothing, and each paint of the path warns
(`Stage.performs_paints_of_none`).
-/

namespace ScenePlayer

variable {σ S : Type}

/-! ### The paints of a shape draw -/

/-- A mask of a single bit tests that bit. -/
theorem and_ne_zero_iff_testBit (bits : UInt16) {mask : UInt16} {bit : Nat}
    (single : mask.toNat = 2 ^ bit) : bits &&& mask ≠ 0 ↔ bits.toNat.testBit bit = true := by
  have masked : (bits &&& mask).toNat = (bits.toNat.testBit bit).toNat * 2 ^ bit := by
    rw [UInt16.toNat_and, single, Nat.and_two_pow]
  rw [ne_eq, ← UInt16.toNat_inj, masked]
  cases bits.toNat.testBit bit <;> simp

theorem DrawFlags.fills_iff (flags : DrawFlags) : flags.fills = true ↔ flags.bits &&& 1 ≠ 0 :=
  (and_ne_zero_iff_testBit flags.bits rfl).symm

theorem DrawFlags.strokes_iff (flags : DrawFlags) : flags.strokes = true ↔ flags.bits &&& 2 ≠ 0 :=
  (and_ne_zero_iff_testBit flags.bits rfl).symm

/-- The paints that a shape is drawn with, in order: that for fills if its bit is set and the
shape is no line, that for strokes if its bit is set. Other bits count for nothing. -/
def Shape.paints (shape : Shape) (flags : DrawFlags) : List PaintSlot :=
  (if flags.bits &&& 1 ≠ 0 ∧ shape.kind ≠ .line then [.fill] else []) ++
    if flags.bits &&& 2 ≠ 0 then [.stroke] else []

/-- The instruction that paints the path. -/
def PaintSlot.paintPath : PaintSlot → Instruction
  | .fill => .fillPath
  | .stroke => .strokePath

/-- A fresh path, the shape in it, and a paint of the path for each paint of the shape. -/
def Shape.byPath (shape : Shape) (flags : DrawFlags) : List Instruction :=
  .beginPath :: .addShape shape :: (shape.paints flags).map PaintSlot.paintPath

namespace Stage

variable (stage : Stage σ S)

/-- Fill or stroke an outline. -/
def paintOutline (outline : Outline) : PaintSlot → Pass σ S → Pass σ S
  | .fill => stage.fill outline
  | .stroke => stage.stroke outline

/-- Paint an outline with several paints in turn. -/
def paintsOutline (outline : Outline) (slots : List PaintSlot) (pass : Pass σ S) : Pass σ S :=
  slots.foldl (fun pass slot => stage.paintOutline outline slot pass) pass

theorem isDraw_paintOutline (outline : Outline) (slot : PaintSlot) :
    Pass.IsDraw (stage.paintOutline outline slot) := by
  cases slot with
  | fill => exact stage.isDraw_fill outline
  | stroke => exact stage.isDraw_stroke outline

theorem drawShape_eq_paintsOutline {shape : Shape} {outline : Outline}
    (drawable : shape.outline? = some outline) (flags : DrawFlags) (pass : Pass σ S) :
    stage.drawShape shape flags pass = stage.paintsOutline outline (shape.paints flags) pass := by
  have filled : (flags.fills && shape.hasInterior) = true ↔
      flags.bits &&& 1 ≠ 0 ∧ shape.kind ≠ .line := by
    rw [Bool.and_eq_true, flags.fills_iff, Shape.hasInterior, bne_iff_ne]
  simp only [drawShape, drawable, filled, flags.strokes_iff, Shape.paints]
  split <;> split <;> rfl

end Stage

/-! ### The paints of the path -/

/-- The same pass with another path. -/
def Pass.withPen (pen : Pen) (pass : Pass σ S) : Pass σ S := { pass with pen }

/-- The path is nothing that a draw sees. -/
theorem Pass.surrounds_withPen (pen : Pen) : Surrounds fun pass : Pass σ S => pass.withPen pen :=
  ⟨fun _ => rfl, fun _ => rfl, fun _ => rfl, fun _ _ => rfl⟩

/-- The same pass with further warnings. -/
def Pass.warns (warnings : List ReplayWarning) (pass : Pass σ S) : Pass σ S :=
  { pass with report := { pass.report with warnings := pass.report.warnings ++ warnings } }

theorem Pass.warns_nil (pass : Pass σ S) : pass.warns [] = pass := by
  simp only [warns, List.append_nil]

namespace Stage

variable (stage : Stage σ S) (levels : Nat) (script : String)

theorem perform_paintPath (descend : Option (Script → Pass σ S → Pass σ S)) (slot : PaintSlot)
    (pass : Pass σ S) :
    stage.perform descend script slot.paintPath pass =
      withPath script (fun outline => stage.paintOutline outline slot) pass := by
  cases slot <;> rfl

/-- A path with an outline is painted as the outline is, and stays. -/
theorem performs_paints {pen : Pen} {outline : Outline} (drawable : pen.outline? = some outline)
    (slots : List PaintSlot) (pass : Pass σ S) :
    stage.performs levels script (slots.map PaintSlot.paintPath) (pass.withPen pen) =
      (stage.paintsOutline outline slots pass).withPen pen := by
  induction slots generalizing pass with
  | nil => rfl
  | cons slot rest ih =>
      have here : stage.perform (stage.below levels) script slot.paintPath (pass.withPen pen) =
          (stage.paintOutline outline slot pass).withPen pen := by
        rw [perform_paintPath, withPath, Pass.withPen, drawable]
        exact (stage.isDraw_paintOutline outline slot).through (Pass.surrounds_withPen pen) pass
      rw [List.map_cons, performs, List.foldl_cons, here]
      exact ih _

/-- Each paint of a path without an outline warns. -/
theorem performs_paints_of_none {pen : Pen} (empty : pen.outline? = none)
    (slots : List PaintSlot) (pass : Pass σ S) :
    stage.performs levels script (slots.map PaintSlot.paintPath) (pass.withPen pen) =
      (pass.warns (.replicate slots.length (.emptyPath script))).withPen pen := by
  induction slots generalizing pass with
  | nil =>
      rw [List.length_nil, List.replicate_zero, Pass.warns_nil]
      rfl
  | cons slot rest ih =>
      have here : stage.perform (stage.below levels) script slot.paintPath (pass.withPen pen) =
          (pass.warns [.emptyPath script]).withPen pen := by
        rw [perform_paintPath, withPath, Pass.withPen, empty]
        rfl
      rw [List.map_cons, performs, List.foldl_cons, here]
      refine (ih _).trans ?_
      simp only [Pass.warns, List.append_assoc, List.length_cons, List.replicate_succ,
        List.singleton_append]

/-- Immediate and path drawing leave the same pass, but for the path and for the warnings of a
shape without an outline. -/
theorem performs_byPath (shape : Shape) (flags : DrawFlags) (pass : Pass σ S) :
    stage.performs levels script (shape.byPath flags) pass =
      ((stage.drawShape shape flags pass).warns
        (if shape.outline?.isNone then .replicate (shape.paints flags).length (.emptyPath script)
          else [])).withPen (Pen.addShape shape {}) := by
  have painted : stage.performs levels script (shape.byPath flags) pass =
      stage.performs levels script ((shape.paints flags).map PaintSlot.paintPath)
        (pass.withPen (Pen.addShape shape {})) := rfl
  rw [painted]
  cases drawable : shape.outline? with
  | none =>
      have skipped : stage.drawShape shape flags pass = pass := by
        simp only [drawShape, drawable]
      rw [skipped]
      exact stage.performs_paints_of_none levels script drawable _ pass
  | some outline =>
      rw [stage.drawShape_eq_paintsOutline drawable]
      refine (stage.performs_paints levels script drawable _ pass).trans ?_
      exact congrArg (Pass.withPen _) (Pass.warns_nil _).symm

/-- A clip by a fresh path is a clip by the shape in it, but for the path and for the warning of a
shape without an outline. -/
theorem performs_clipByPath (shape : Shape) (mode : ClipMode) (pass : Pass σ S) :
    stage.performs levels script [.beginPath, .addShape shape, .clipPath mode] pass =
      ((pass.addClip shape.outline? mode).warns
        (if shape.outline?.isNone then [.emptyPath script] else [])).withPen
          (Pen.addShape shape {}) := by
  have clipped : stage.performs levels script [.beginPath, .addShape shape, .clipPath mode] pass =
      (if shape.outline?.isNone then (pass.withPen (Pen.addShape shape {})).warn (.emptyPath script)
        else pass.withPen (Pen.addShape shape {})).addClip shape.outline? mode := rfl
  rw [clipped]
  cases shape.outline? with
  | none => rfl
  | some outline =>
      simp only [Option.isNone_some, Bool.false_eq_true, if_false, Pass.warns_nil]
      rfl

/-- **Immediate and path drawing agree.** Whatever the shape, the flags and the pass, a shape draw
makes the same calls of the surface, in the same order and with the same answers, as a fresh path
with the shape in it that is filled if the bit for it is set and the shape is no line, and then
stroked if the bit for it is set. It leaves the same surface, shader cache, stack and clip
identifiers, and the same report of draws, visits and faults. The two differ in the path that they
leave behind. And where the shape has no outline, the draw does nothing, while each paint of the
path warns that it is empty.

In the same way a scissor leaves the stack and the clip identifiers that an intersection with a
fresh path leaves which has the rectangle in it. -/
theorem draws_agree_with_path (stage : Stage σ S) (levels : Nat) (script : String)
    (pass : Pass σ S) :
    (∀ shape flags,
      let immediate := stage.perform (stage.below levels) script (.draw shape flags) pass
      let byPath := stage.performs levels script (shape.byPath flags) pass
      let empty : List ReplayWarning :=
        if shape.outline?.isNone then .replicate (shape.paints flags).length (.emptyPath script)
        else []
      immediate.pen = pass.pen ∧
        byPath = { immediate with
          pen := Pen.addShape shape {}
          report := { immediate.report with warnings := immediate.report.warnings ++ empty } } ∧
        (shape.outline? = none → immediate = pass) ∧
        ∃ calls : Trace S,
          (stage.tracing.perform (stage.tracing.below levels) script (.draw shape flags)
            pass.traced).surface = (immediate.surface, calls) ∧
          (stage.tracing.performs levels script (shape.byPath flags) pass.traced).surface =
            (byPath.surface, calls)) ∧
    ∀ width height,
      let rectangle := Shape.rect width height
      let immediate := stage.perform (stage.below levels) script (.scissor width height) pass
      let byPath := stage.performs levels script
        [.beginPath, .addShape rectangle, .clipPath .intersect] pass
      let empty : List ReplayWarning :=
        if rectangle.outline?.isNone then [.emptyPath script] else []
      byPath = { immediate with
        pen := Pen.addShape rectangle {}
        report := { immediate.report with warnings := immediate.report.warnings ++ empty } } := by
  constructor
  · intro shape flags immediate byPath empty
    have same : byPath = (immediate.warns empty).withPen (Pen.addShape shape {}) :=
      stage.performs_byPath levels script shape flags pass
    have skipped : shape.outline? = none → immediate = pass := by
      intro none
      simp only [immediate, perform, drawShape, none]
    have traced := congrArg Pass.surface
      (stage.tracing.performs_byPath levels script shape flags pass.traced)
    have seen := congrArg Pass.surface
      (view_drawShape stage.canvas.shows_tracing shape flags pass.traced)
    have surfaces : byPath.surface = immediate.surface := by
      rw [same]
      rfl
    exact ⟨((stage.isDraw_drawShape shape flags).drawn pass).pen, same, skipped, _,
      Prod.ext seen rfl, traced.trans (Prod.ext (seen.trans surfaces.symm) rfl)⟩
  · intro width height
    exact stage.performs_clipByPath levels script (.rect width height) .intersect pass

/-- A circle whose radius is no number is skipped by the draw, and both paints of the path warn of
it. A rectangle with a fill paint that is not there is stroked. -/
theorem draws_agree_with_path_of_circle :
    let stage : Stage Recording Nat :=
      { canvas := Recording.canvas, scripts := {}, assets := {}, depthLimit := 64 }
    let pass : Pass Recording Nat :=
      { surface := {}, shaders := {}, stack := { top := { fill := .image "i" } },
        pen := Pen.moveTo ⟨1, 1⟩ {} }
    let circle := Shape.circle ⟨0x7fc00000⟩
    let byPath (shape : Shape) := stage.performs 0 "main" (shape.byPath ⟨0xff03⟩) pass
    circle.outline? = none ∧ stage.perform none "main" (.draw circle ⟨0xff03⟩) pass = pass ∧
      (byPath circle).report = { warnings := [.emptyPath "main", .emptyPath "main"] } ∧
      (byPath (.rect 2 2)).report = { warnings := [.missingAsset .image "i"], draws := 1 } := by
  intro stage pass circle byPath
  have empty : circle.outline? = none := by decide +kernel
  obtain ⟨-, same, skipped, -⟩ := (stage.draws_agree_with_path 0 "main" pass).1 circle ⟨0xff03⟩
  obtain ⟨-, drawn, -⟩ := (stage.draws_agree_with_path 0 "main" pass).1 (.rect 2 2) ⟨0xff03⟩
  refine ⟨empty, skipped empty, ?_, ?_⟩
  · exact (congrArg Pass.report same).trans (by decide +kernel)
  · exact (congrArg Pass.report drawn).trans (by decide +kernel)

end Stage

end ScenePlayer
