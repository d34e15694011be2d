import WindowKeeper.Session.Activity
import WindowKeeper.Session.Appearance

namespace WindowKeeper.Session

variable {σ : Type} [Store σ]

/-- Shows the window, out of the minimized state, and gives it the focus. -/
def activate (s : Session σ) : Session σ :=
  let wasHidden := !s.window.visible
  let s := if s.window.state = .minimized then
      s.onWindow (Window.setState
        (if (Store.settings s.store).placement.maximized then .maximized else .normal))
    else s
  let s := (s.onWindow (Window.setVisible true)).onWindow Window.raise
  let s := updateActive (focus s)
  if wasHidden then noteShown s else s

def showFromTray (s : Session σ) : Session σ := updateTitle (activate s)

/-- Hides the window and notes that it lost the focus. -/
def hide (s : Session σ) : Session σ :=
  updateActive (blur (s.onWindow (Window.setVisible false)))

/-- Whether the window went to the tray, and the session after that. -/
def hideToTray (s : Session σ) : Bool × Session σ :=
  if s.quitting || !s.trayAttached then (false, s)
  else
    let s := hide s
    (true, { s with tray := { s.tray with tooltipsShown := s.tray.tooltipsShown + 1 } })

/-- Whether the window was hidden in place of quitting. -/
def hideNotQuit (s : Session σ) : Bool × Session σ :=
  if s.quitting then (false, s)
  else if (Store.settings s.store).workMode.usesTray then
    match hideToTray s with
    | (true, s) => (true, showList s)
    | (false, s) => (false, s)
  else if s.config.hidesOnClose then (true, showList (hide s))
  else (false, s)

def quit (s : Session σ) : Session σ := { s with quitting := true }

/-- Whether closing the window only hid it. -/
def close (s : Session σ) : Bool × Session σ :=
  match hideNotQuit s with
  | (true, s) => (true, s)
  | (false, s) => (false, quit s)

def attachTray (s : Session σ) : Session σ :=
  { s with
    trayAttached := true
    tray := ⟨s.config.appName ++ "\n" ++ Path.tidy s.config.workingDir, 0⟩ }

def detachTray (s : Session σ) : Session σ := { s with trayAttached := false }

end WindowKeeper.Session
