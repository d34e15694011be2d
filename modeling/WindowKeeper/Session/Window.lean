import WindowKeeper.Icon.Logo
import WindowKeeper.Monitor
import WindowKeeper.Session.Event

namespace WindowKeeper

/-- A window of the window system. What changes it gives the notifications of the change as well. -/
@[ext]
structure Window where
  monitors : List Monitor
  /-- The area inside the frame. -/
  geometry : Rect
  frame : Margins
  state : WindowState
  visible : Bool
  /-- Whether the window has the keyboard focus. -/
  focused : Bool
  title : String
  icon : Option Icon
  iconUpdates : Nat
  leastSize : Size
  nativeFrame : Bool
  raises : Nat
  deriving DecidableEq, Repr

namespace Window

def onMonitors (ms : List Monitor) (frame : Margins) : Window where
  monitors := ms
  geometry := ⟨0, 0, 0, 0⟩
  frame := frame
  state := .normal
  visible := false
  focused := false
  title := ""
  icon := none
  iconUpdates := 0
  leastSize := ⟨0, 0⟩
  nativeFrame := false
  raises := 0

def setGeometry (r : Rect) (w : Window) : Window × List Event :=
  ({ w with geometry := r },
    (if w.geometry.corner = r.corner then [] else [.moved]) ++
      (if w.geometry.size = r.size then [] else [.resized]))

def move (x y : Int) (w : Window) : Window × List Event :=
  w.setGeometry { w.geometry with x := x, y := y }

def resize (width height : Int) (w : Window) : Window × List Event :=
  w.setGeometry { w.geometry with w := width, h := height }

def setState (s : WindowState) (w : Window) : Window × List Event :=
  if w.state = s then (w, []) else ({ w with state := s }, [.stateChanged s])

def setFocus (b : Bool) (w : Window) : Window × List Event :=
  if w.focused = b then (w, []) else ({ w with focused := b }, [.activeChanged])

/-- A window that is hidden loses the focus. -/
def setVisible (b : Bool) (w : Window) : Window × List Event :=
  if w.visible = b then (w, [])
  else
    let w := { w with visible := b }
    let (w, es) := if b then (w, []) else w.setFocus false
    (w, es ++ [.visibleChanged b])

def raise (w : Window) : Window × List Event := setFocus true { w with raises := w.raises + 1 }

/-- The window is active if it has the focus, can be seen and is not minimized. -/
def isActive (w : Window) : Bool := w.focused && w.visible && w.state ≠ .minimized

def setIcon (i : Icon) (w : Window) : Window :=
  { w with icon := some i, iconUpdates := w.iconUpdates + 1 }

/-- The sizes at which the window has its icon. -/
def iconSizes (w : Window) : List Nat := if w.icon.isSome then Icon.sizes else []

end Window

end WindowKeeper
