import ScenePlayer.Raster.Plane

/-!
Contours: outlines cut into runs of straight lines. Curves are followed in steps
of equal parameter.
-/

namespace ScenePlayer

/-- A run of straight lines. -/
structure Contour where
  spots : List Spot
  closed : Bool

/-- Into how many lines a curve is cut. -/
def curveSteps : Nat := 64

/-- The spots of a curve behind its start. -/
def curveSpots (curve : Float → Spot) : List Spot :=
  (List.range curveSteps).map fun i => curve ((i + 1).toFloat / curveSteps.toFloat)

/-- The point of a quadratic Bézier curve at a parameter. -/
def quadAt (p c q : Spot) (t : Float) : Spot := (p.towards c t).towards (c.towards q t) t

/-- The point of a cubic Bézier curve at a parameter. -/
def cubicAt (p c d q : Spot) (t : Float) : Spot :=
  (quadAt p c d t).towards (quadAt c d q t) t

/-- The spots that a segment adds behind the spot `start`, in order. -/
def Segment.spots (start : Spot) : Segment → List Spot
  | .move p => [.ofPoint p]
  | .line p => [.ofPoint p]
  | .quad c p => curveSpots (quadAt start (.ofPoint c) (.ofPoint p))
  | .cubic c d p => curveSpots (cubicAt start (.ofPoint c) (.ofPoint d) (.ofPoint p))
  | .close => []

/-- Cut segments into contours. `run` holds the spots of the contour at hand,
latest first. -/
def contoursFrom : (run : List Spot) → List Segment → List Contour
  | [], [] => []
  | run, [] => [⟨run.reverse, false⟩]
  | run, .move p :: rest =>
      if run.isEmpty then contoursFrom [.ofPoint p] rest
      else ⟨run.reverse, false⟩ :: contoursFrom [.ofPoint p] rest
  | run, .close :: rest => ⟨run.reverse, true⟩ :: contoursFrom [] rest
  | run, segment :: rest =>
      contoursFrom ((segment.spots (run.headD default)).reverse ++ run) rest

namespace Outline

def contours (outline : Outline) : List Contour := contoursFrom [] outline.segments

/-- The polygons that a fill covers; open contours are closed for it. -/
def polygons (outline : Outline) : List Polygon := outline.contours.map Contour.spots

end Outline

end ScenePlayer
