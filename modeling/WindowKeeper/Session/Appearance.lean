import WindowKeeper.Placement.Rescale
import WindowKeeper.Placement.Restore
import WindowKeeper.Session.State
import WindowKeeper.Widening

namespace WindowKeeper.Session

variable {σ : Type} [Store σ]

def updateTitle (s : Session σ) : Session σ :=
  if s.quitting then s
  else
    let title := if s.unread = 0 then s.config.appName
      else s.config.appName ++ " (" ++ toString s.unread ++ ")"
    { s with window := { s.window with title := title } }

def supportMode (s : Session σ) : Bool := s.account.any (·.supportMode)

/-- Makes the icon anew if it is not the one that is wanted; a failure leaves the old one. -/
def renewIcon (s : Session σ) : Session σ :=
  if s.icon.isNone || s.supportMode != s.iconSupport || s.iconId != s.iconShown then
    match Icon.create s.files s.config.workingDir s.config.assetsDir s.iconId s.supportMode with
    | .ok i => { s with icon := some i, iconSupport := s.supportMode, iconShown := s.iconId }
    | .error _ => s
  else s

def updateIcon (s : Session σ) : Session σ :=
  let s := renewIcon s
  match s.icon with
  | some i => { s with window := s.window.setIcon i }
  | none => s

def updateFrame (s : Session σ) : Session σ :=
  let native := s.config.nativeFrameSupported && (Store.settings s.store).nativeFrame
  { s with window := { s.window with nativeFrame := native } }

def additions (s : Session σ) : Additions :=
  ⟨(s.account.map (·.filtersWidth)).getD 0, s.columnWidth, s.config.barHeight⟩

def leastSize (s : Session σ) : Except Overflow Size := s.config.leastSize.extended s.additions

def setLeastSize (s : Session σ) (size : Size) : Session σ :=
  { s with window := { s.window with leastSize := size } }

def updateLeastSize (s : Session σ) : Outcome σ (Session σ) := do
  return s.setLeastSize (← s.attempt s.leastSize)

/-- The margins of a native frame, as the settings have it. -/
def frameMargins (s : Session σ) : Margins :=
  if (Store.settings s.store).nativeFrame then s.window.frame else .none

/-- Puts the window where it was, or where a new window goes. -/
def openWindow (s : Session σ) : Outcome σ (Session σ) := do
  let s ← updateLeastSize s
  let p := (Store.settings s.store).placement.rescale s.config.scale
  let r ← s.attempt (p.restore s.window.monitors s.config.openingSize s.config.leastSize
    (frameMargins s))
  return s.onWindow (Window.setGeometry r)

def init (s : Session σ) : Outcome σ (Session σ) := do
  return updateTitle (← openWindow (updateFrame (updateIcon s)))

end WindowKeeper.Session
