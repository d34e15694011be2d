import WindowKeeper.Geometry

namespace WindowKeeper

/-- A remembered placement. The corner is relative to the corner of the monitor whose name has the
checksum `monitor`. -/
@[ext]
structure Placement where
  x : Int
  y : Int
  w : Int
  h : Int
  /-- The display scale in percent when the record was made, or zero in records without one. -/
  scale : Int
  maximized : Bool
  monitor : UInt32
  deriving DecidableEq, Repr, Inhabited

namespace Placement

def empty : Placement := ⟨0, 0, 0, 0, 0, false, 0⟩

def hasSize (p : Placement) : Bool := 0 < p.w && 0 < p.h

/-- Whether the record is large enough to be kept. -/
def fits (p : Placement) (least : Size) : Bool := least.w ≤ p.w && least.h ≤ p.h

end Placement

end WindowKeeper
