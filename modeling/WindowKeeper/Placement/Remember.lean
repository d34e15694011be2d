import WindowKeeper.Placement.Record
import WindowKeeper.Monitor

namespace WindowKeeper

inductive WindowState
  | normal
  | minimized
  | maximized
  | fullscreen
  deriving DecidableEq, Repr, Inhabited

/-- The window at the moment of saving. -/
@[ext]
structure Snapshot where
  body : Rect
  state : WindowState
  visible : Bool
  /-- Whether the window has been placed; before that its position means nothing. -/
  placed : Bool
  /-- The width of the right column, which is not remembered. -/
  rightColumn : Int
  deriving DecidableEq, Repr

namespace Snapshot

def worthSaving (s : Snapshot) : Bool := s.state ≠ .minimized && s.visible && s.placed

/-- The placement of a body that is not maximized, relative to the monitor nearest to its center. -/
def bodyPlacement (s : Snapshot) (ms : List Monitor) (scale : Int) : Except Overflow Placement := do
  let w ← minus s.body.w s.rightColumn
  let whole : Rect := ⟨s.body.x, s.body.y, w, s.body.h⟩
  match ← Monitor.nearest? ms (← whole.center) with
  | none => return ⟨whole.x, whole.y, w, whole.h, scale, false, 0⟩
  | some m =>
    let x ← minus whole.x m.geometry.x
    let y ← minus whole.y m.geometry.y
    return ⟨x, y, w, whole.h, scale, false, m.checksum⟩

/-- The placement that would replace `saved`; a maximized window only sets the flag. -/
def candidate (s : Snapshot) (saved : Placement) (ms : List Monitor) (scale : Int) :
    Except Overflow Placement :=
  if s.state = .maximized then .ok { saved with maximized := true } else s.bodyPlacement ms scale

/-- The record to write in place of `saved`, if the window is worth saving, not below the least
size, and not recorded already. -/
def remember (s : Snapshot) (saved : Placement) (ms : List Monitor) (scale : Int) (least : Size) :
    Except Overflow (Option Placement) :=
  if s.worthSaving then do
    let p ← s.candidate saved ms scale
    return if p.fits least ∧ p ≠ saved then some p else none
  else .ok none

end Snapshot

end WindowKeeper
