import WindowKeeper.Monitor
import WindowKeeper.Session.Event

namespace WindowKeeper

/-- An action of the user or the system. -/
inductive Script.Step
  | move (x y : Int)
  | resize (w h : Int)
  | state (state : WindowState)
  | visible (visible : Bool)
  | focus (focused : Bool)
  | monitors (ms : List Monitor)
  | placed
  | tray (activation : TrayActivation)
  | unread (count : Nat)
  | workMode (mode : WorkMode)
  | nativeFrame (native : Bool)
  | rightColumn (width : Option Int)
  | close
  /-- Time passes, and the timers with it. -/
  | wait (ms : Nat)
  deriving DecidableEq, Repr, Inhabited

abbrev Script := List Script.Step

end WindowKeeper
