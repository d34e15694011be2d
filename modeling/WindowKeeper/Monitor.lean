import WindowKeeper.Geometry
import WindowKeeper.Checksum

namespace WindowKeeper

@[ext]
structure Monitor where
  name : String
  geometry : Rect
  /-- The geometry without task bars, docks and other reserved strips. -/
  available : Rect
  primary : Bool
  deriving DecidableEq, Repr, Inhabited

namespace Monitor

def checksum (m : Monitor) : UInt32 := Checksum.ofName m.name

def center (m : Monitor) : Except Overflow Point := m.geometry.center

/-- The flagged monitor, or the first one if none is flagged. -/
def primary? (ms : List Monitor) : Option Monitor := ms.find? (·.primary) <|> ms.head?

/-- The monitor that a record names by checksum. -/
def named? (ms : List Monitor) (checksum : UInt32) : Option Monitor :=
  ms.find? (·.checksum == checksum)

/-- Goes on with the search for the monitor nearest to `p`, `best` being the nearest so far. -/
def nearestFrom (p : Point) (best : Monitor × Nat) : List Monitor → Except Overflow Monitor
  | [] => .ok best.1
  | m :: ms => do
    let d := (← m.center).distance p
    nearestFrom p (if d < best.2 then (m, d) else best) ms

/-- The first monitor whose center is at the least Manhattan distance from `p`. -/
def nearest? (ms : List Monitor) (p : Point) : Except Overflow (Option Monitor) :=
  match ms with
  | [] => .ok none
  | m :: ms => do
    return some (← nearestFrom p (m, (← m.center).distance p) ms)

end Monitor

end WindowKeeper
