import WindowKeeper.Session.Column
import WindowKeeper.Session.Saving
import WindowKeeper.Session.Visibility

namespace WindowKeeper.Session

variable {σ : Type} [Store σ]

def stateChanged (s : Session σ) (state : WindowState) : Outcome σ (Session σ) :=
  let s := if state = .minimized then blur s else focus s
  let s := updateActive s
  let s := if state = .minimized ∧ (Store.settings s.store).workMode = .trayOnly then
      (hideToTray s).2
    else s
  savePlacement s state

def visibleChanged (s : Session σ) (visible : Bool) : Session σ :=
  let s := if visible then
      if s.maximizedBeforeHide then s.onWindow (Window.setState .maximized) else s
    else { s with maximizedBeforeHide := (Store.settings s.store).placement.maximized }
  updateActive s

def trayActivated (s : Session σ) : TrayActivation → Session σ
  | .trigger => if s.window.visible && s.active then (hideToTray s).2 else showFromTray s
  | .doubleClick => showFromTray s
  | _ => s

def workModeChanged (s : Session σ) (mode : WorkMode) : Session σ :=
  let s := saveLater { s with store := Store.setWorkMode mode s.store }
  if mode = .windowOnly then
    let s := detachTray s
    if s.window.visible then s else activate s
  else s

def handle (s : Session σ) : Event → Outcome σ (Session σ)
  | .moved => .ok s.callPlacementTimer
  | .resized => .ok s.callPlacementTimer
  | .stateChanged state => stateChanged s state
  | .visibleChanged visible => .ok (visibleChanged s visible)
  | .activeChanged => .ok (updateActive s)
  | .trayActivated activation => .ok (trayActivated s activation)
  | .unreadChanged count => .ok (updateTitle { s with unread := count })
  | .workModeChanged mode => .ok (workModeChanged s mode)
  | .nativeFrameChanged native =>
    let s := saveLater { s with store := Store.setNativeFrame native s.store }
    updateLeastSize (updateFrame s)
  | .iconChanged id => .ok (updateIcon { s with iconId := id })
  | .accountChanged => updateLeastSize (updateIcon s)
  | .placed => .ok { s with placed := true }
  | .closeRequested => .ok (close s).2
  | .quit => .ok (quit s)
  | .placementTimer generation =>
    match s.placementTimer.confirm generation with
    | (true, t) => savePlacement { s with placementTimer := t } s.window.state
    | (false, _) => .ok s
  | .settingsTimer generation =>
    match s.settingsTimer.confirm generation with
    | (true, t) => .ok (flush { s with settingsTimer := t }).2
    | (false, _) => .ok s

/-- Handles at most `n` queued events. -/
def handleQueued : Nat → Session σ → Outcome σ (Session σ)
  | 0, s => .ok s
  | n + 1, s =>
    match s.queue with
    | [] => .ok s
    | e :: rest => do handleQueued n (← handle { s with queue := rest } e)

/-- Handles all events in the queue and those that they cause. One event causes at most four. -/
def processQueue (s : Session σ) : Outcome σ (Session σ) := handleQueued (5 * s.queue.length) s

end WindowKeeper.Session
