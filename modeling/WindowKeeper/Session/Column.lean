import WindowKeeper.Session.Appearance

namespace WindowKeeper.Session

variable {σ : Type} [Store σ]

/-- How long a looked-up desktop area counts, in milliseconds. -/
def desktopLifetime : Nat := 1000

/-- The available area of the monitor under the window, or without monitors the window itself. -/
def lookUpDesktop (w : Window) : Except Overflow Rect := do
  match ← Monitor.nearest? w.monitors (← w.geometry.center) with
  | some m => return m.available
  | none => return w.geometry

/-- The desktop area, looked up at most once in its lifetime. -/
def desktopRect (s : Session σ) : Outcome σ (Rect × Session σ) := do
  let fresh := do
    let r ← s.attempt (lookUpDesktop s.window)
    return (r, { s with desktop := some (s.clock.now, r) })
  match s.desktop with
  | some (taken, r) => if s.clock.now < taken + desktopLifetime then return (r, s) else fresh
  | none => fresh

def room (s : Session σ) : Outcome σ (Int × Session σ) := do
  let (d, s) ← desktopRect s
  return (← s.attempt (d.room s.window.geometry.w), s)

def growsInPlace (s : Session σ) (width : Int) : Outcome σ (Bool × Session σ) := do
  let (d, s) ← desktopRect s
  return (← s.attempt (s.window.geometry.growsInPlace d width), s)

/-- Widens the window as far as the desktop has room. Gives the width added. -/
def widen (s : Session σ) (width : Int) : Outcome σ (Int × Session σ) := do
  let (d, s) ← desktopRect s
  let (r, added) ← s.attempt (s.window.geometry.widen d width)
  return (added, if r = s.window.geometry then s else s.onWindow (Window.setGeometry r))

/-- Widens the window to its old width with the new column in place of the old one. -/
def followColumn (s : Session σ) (oldWidth oldColumn : Int) : Outcome σ (Session σ) := do
  let wanted ← s.attempt (do minus (← plus oldWidth s.columnWidth) oldColumn)
  let change ← s.attempt (minus wanted s.window.geometry.w)
  return (← widen s change).2

/-- Shows the right column at a width, or hides it, and lets the window follow unless it is
maximized. A smaller least size is set before the window changes, a larger one after. -/
def setRightColumn (s : Session σ) (width : Option Int) : Outcome σ (Session σ) := do
  let oldWidth := s.window.geometry.w
  let oldColumn := s.columnWidth
  let oldLeast := s.window.leastSize
  let s := { s with rightColumn := width }
  let least ← s.attempt s.leastSize
  let s := if least.w < oldLeast.w then s.setLeastSize least else s
  let s ← if s.window.state = .maximized then pure s else followColumn s oldWidth oldColumn
  return if least.w < oldLeast.w then s else s.setLeastSize least

end WindowKeeper.Session
