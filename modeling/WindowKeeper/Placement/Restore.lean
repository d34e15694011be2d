import WindowKeeper.Placement.Record
import WindowKeeper.Monitor

namespace WindowKeeper

/-- The default size in the middle of the primary monitor's available area, or at the origin of a
desktop without monitors. -/
def defaultRect (ms : List Monitor) (size : Size) : Except Overflow Rect :=
  match Monitor.primary? ms with
  | some m => m.available.centered size
  | none => .ok (.ofCornerSize ⟨0, 0⟩ size)

/-- A stretch of an axis. -/
@[ext]
structure Span where
  start : Int
  length : Int
  deriving DecidableEq, Repr

namespace Span

def stop (s : Span) : Int := s.start + s.length

/-- Fits a span into an area: it is moved back first and cut only if moving would pass the area's
start. -/
def fit (s area : Span) : Span :=
  if s.stop ≤ area.stop then s
  else if area.start ≤ s.start - (s.stop - area.stop) then
    ⟨s.start - (s.stop - area.stop), s.length⟩
  else ⟨area.start, s.length - (area.start + s.length - area.stop)⟩

/-- Brings a span of any kind into an area. -/
def confine (s area : Span) : Span :=
  fit ⟨max s.start area.start, min s.length area.length⟩ area

end Span

namespace Placement

/-- Places the record on monitor `m`, of which `space` is usable, if it can be honoured there.
Its numbers may be any, and are added without a bound. -/
def placeOn (p : Placement) (m : Monitor) (space : Rect) (least : Size) : Option Rect :=
  if space.w < least.w ∨ space.h < least.h then none else
    let h := Span.confine ⟨p.x, p.w⟩ ⟨space.x - m.geometry.x, space.w⟩
    let v := Span.confine ⟨p.y, p.h⟩ ⟨space.y - m.geometry.y, space.h⟩
    let x := h.start + m.geometry.x
    let y := v.start + m.geometry.y
    if m.geometry.x + m.geometry.w < x + least.w ∨ m.geometry.y + m.geometry.h < y + least.h then
      none
    else if Fits32 x ∧ Fits32 y ∧ Fits32 h.length ∧ Fits32 v.length then
      some ⟨x, y, h.length, v.length⟩
    else none

/-- The rectangle in which a window with this record opens. -/
def restore (p : Placement) (ms : List Monitor) (usual least : Size) (frame : Margins) :
    Except Overflow Rect := do
  let initial ← defaultRect ms usual
  if !p.hasSize then return initial
  match Monitor.named? ms p.monitor with
  | none => return initial
  | some m => return (p.placeOn m (← m.available.inset frame) least).getD initial

end Placement

end WindowKeeper
