import ScenePlayer.Canvas.Basic

/-!
What a replay reports: how much it visited and drew, and every fault that it
skipped over. Only a missing root or a failing canvas ends a replay.
-/

namespace ScenePlayer

/-- A fault that a replay skips over. -/
inductive ReplayWarning where
  /-- `caller` refers to a script that is not stored. -/
  | danglingReference (caller target : String)
  /-- The chain of active scripts, and the script of it that is referred to. -/
  | cycleDetected (chain : List String)
  | depthExceeded (target : String) (depth : Nat)
  | missingAsset (kind : AssetKind) (id : String)
  | unsupportedPaint
  /-- A pop in a script that has nothing pushed. -/
  | unbalancedPop (script : String)
  /-- A fill, stroke or clip by a path without geometry. -/
  | emptyPath (script : String)
  deriving DecidableEq, Repr

def ReplayWarning.message : ReplayWarning → String
  | .danglingReference caller target =>
      s!"script `{caller}` references missing script `{target}`"
  | .cycleDetected chain => "reference cycle skipped: " ++ " -> ".intercalate chain
  | .depthExceeded target depth => s!"script `{target}` skipped at depth {depth}"
  | .missingAsset kind id => kind.name ++ s!" asset `{id}` is not loaded"
  | .unsupportedPaint => "paint cannot be represented by the surface"
  | .unbalancedPop script => s!"unbalanced pop_state in script `{script}`"
  | .emptyPath script => s!"empty path used in script `{script}`"

structure ReplayReport where
  /-- In the order in which the faults were met. -/
  warnings : List ReplayWarning := []
  /-- Scripts walked, the root and every repeated reference counted. -/
  visited : Nat := 0
  draws : Nat := 0
  deriving DecidableEq, Repr

def ReplayReport.warn (warning : ReplayWarning) (report : ReplayReport) : ReplayReport :=
  { report with warnings := report.warnings ++ [warning] }

inductive ReplayError where
  | missingRoot
  | canvas (error : CanvasError)
  deriving DecidableEq, Repr

def ReplayError.message : ReplayError → String
  | .missingRoot => "no root script is cached"
  | .canvas error => error.message

end ScenePlayer
