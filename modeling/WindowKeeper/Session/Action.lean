import WindowKeeper.Session.Wait

namespace WindowKeeper

inductive Action
  | init
  | activate
  | process
  | handle (e : Event)
  | send (e : Event)
  | markPlaced
  | noteMove
  | noteState (state : WindowState)
  | noteVisible (visible : Bool)
  | updateActive
  | updateTitle
  | updateIcon
  | updateLeastSize
  | quit
  | showFromTray
  | attachTray
  | detachTray
  | savePlacement (state : WindowState)
  | setRightColumn (width : Option Int)
  | hideNotQuit
  | hideToTray
  | close
  | shutdown
  | desktopRect
  | room
  | growsInPlace (width : Int)
  | widen (width : Int)
  | move (x y : Int)
  | resize (w h : Int)
  | setGeometry (r : Rect)
  | setState (state : WindowState)
  | setVisible (visible : Bool)
  | setFocus (focused : Bool)
  | raise
  | setMonitors (ms : List Monitor)
  | setAccount (a : Option Account)
  | wait (ms : Nat)
  | advance (ms : Nat)
  /-- Handles events until the session quits, for a time at most. -/
  | run (ms : Nat)
  deriving DecidableEq, Repr

/-- What an action answers. -/
inductive Reply
  | nothing
  | flag (b : Bool)
  | number (n : Int)
  | rect (r : Rect)
  | saved (r : Except Settings.SaveError Unit)
  | timeout
  deriving Repr

namespace Session

variable {σ : Type} [Store σ]

/-- An action that answers nothing and cannot halt. -/
def quietly (s : Session σ) : Outcome σ (Reply × Session σ) := .ok (.nothing, s)

def act (s : Session σ) : Action → Outcome σ (Reply × Session σ)
  | .init => (.nothing, ·) <$> init s
  | .activate => quietly (activate s)
  | .process => (.nothing, ·) <$> processQueue s
  | .handle e => (.nothing, ·) <$> handle s e
  | .send e => quietly (send s e)
  | .markPlaced => quietly { s with placed := true }
  | .noteMove => quietly s.callPlacementTimer
  | .noteState state => (.nothing, ·) <$> stateChanged s state
  | .noteVisible visible => quietly (visibleChanged s visible)
  | .updateActive => quietly (updateActive s)
  | .updateTitle => quietly (updateTitle s)
  | .updateIcon => quietly (updateIcon s)
  | .updateLeastSize => (.nothing, ·) <$> updateLeastSize s
  | .quit => quietly (quit s)
  | .showFromTray => quietly (showFromTray s)
  | .attachTray => quietly (attachTray s)
  | .detachTray => quietly (detachTray s)
  | .savePlacement state => (.nothing, ·) <$> savePlacement s state
  | .setRightColumn width => (.nothing, ·) <$> setRightColumn s width
  | .hideNotQuit => .ok (Prod.map .flag id (hideNotQuit s))
  | .hideToTray => .ok (Prod.map .flag id (hideToTray s))
  | .close => .ok (Prod.map .flag id (close s))
  | .shutdown => Prod.map .saved id <$> shutdown s
  | .desktopRect => Prod.map .rect id <$> desktopRect s
  | .room => Prod.map .number id <$> room s
  | .growsInPlace width => Prod.map .flag id <$> growsInPlace s width
  | .widen width => Prod.map .number id <$> widen s width
  | .move x y => quietly (s.onWindow (Window.move x y))
  | .resize w h => quietly (s.onWindow (Window.resize w h))
  | .setGeometry r => quietly (s.onWindow (Window.setGeometry r))
  | .setState state => quietly (s.onWindow (Window.setState state))
  | .setVisible visible => quietly (s.onWindow (Window.setVisible visible))
  | .setFocus focused => quietly (s.onWindow (Window.setFocus focused))
  | .raise => quietly (s.onWindow Window.raise)
  | .setMonitors ms => quietly { s with window := { s.window with monitors := ms } }
  | .setAccount a => quietly { s with account := a }
  | .wait ms => (.nothing, ·) <$> wait s ms
  | .advance ms => quietly (advance s ms)
  | .run ms => (fun p => (p.1.elim .timeout .saved, p.2)) <$> run s ms

end Session

end WindowKeeper
