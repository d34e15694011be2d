import WindowKeeper.Geometry

namespace WindowKeeper

/-- The parts of the window that come on top of its least size. -/
structure Additions where
  /-- The strip of chat folders, zero when hidden. -/
  filters : Int
  rightColumn : Int
  /-- The bar that announces an outdated system, zero when hidden. -/
  bar : Int
  deriving DecidableEq, Repr

/-- The least size of a window with these parts. -/
def Size.extended (s : Size) (a : Additions) : Except Overflow Size := do
  let w ← plus (← plus s.w a.filters) a.rightColumn
  let h ← plus s.h a.bar
  return ⟨w, h⟩

namespace Rect

/-- How much wider a body may grow on a desktop. -/
def room (desktop : Rect) (width : Int) : Except Overflow Int := do
  return max (← minus desktop.w width) 0

/-- Whether a window can grow by `d` with its left edge in place. -/
def growsInPlace (r desktop : Rect) (d : Int) : Except Overflow Bool := do
  return (← plus (← r.right) d) ≤ (← desktop.right)

/-- Widens a window by up to `d`, moving it to the left if its right edge would leave the desktop.
Gives the width added as well. -/
def widen (r desktop : Rect) (d : Int) : Except Overflow (Rect × Int) := do
  let added := min d (← desktop.room r.w)
  let w ← plus r.w added
  let x := min r.x (← minus (← desktop.right) w)
  return (⟨x, r.y, w, r.h⟩, added)

end Rect

end WindowKeeper
