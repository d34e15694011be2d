import WindowKeeper.Script.Step
import WindowKeeper.Session.Wait

namespace WindowKeeper

namespace Session

variable {σ : Type} [Store σ]

/-- Performs a step, apart from the events that it queues. -/
def perform (s : Session σ) : Script.Step → Outcome σ (Session σ)
  | .move x y => .ok (s.onWindow (Window.move x y))
  | .resize w h => .ok (s.onWindow (Window.resize w h))
  | .state state => .ok (s.onWindow (Window.setState state))
  | .visible visible => .ok (s.onWindow (Window.setVisible visible))
  | .focus focused => .ok (s.onWindow (Window.setFocus focused))
  | .monitors ms => .ok { s with window := { s.window with monitors := ms } }
  | .placed => handle s .placed
  | .tray activation => handle s (.trayActivated activation)
  | .unread count => handle s (.unreadChanged count)
  | .workMode mode => handle s (.workModeChanged mode)
  | .nativeFrame native => handle s (.nativeFrameChanged native)
  | .rightColumn width => setRightColumn s width
  | .close => handle s .closeRequested
  | .wait ms => wait s ms

/-- Performs the steps and what they cause, until the session quits. -/
def play (s : Session σ) : Script → Outcome σ (Session σ)
  | [] => .ok s
  | step :: rest => do
    let s ← processQueue (← perform s step)
    if s.quitting then return s
    play s rest

/-- Plays a script and shuts the session down. -/
def replay (s : Session σ) (script : Script) :
    Outcome σ (Except Settings.SaveError Unit × Session σ) := do
  shutdown (← play s script)

/-- Sets a new session up and shows its window, with a tray icon if wanted. -/
def begin (s : Session σ) (withTray : Bool) : Outcome σ (Session σ) := do
  let s := if withTray then attachTray s else s
  processQueue (activate (← init s))

end Session

end WindowKeeper
