import WindowKeeper.Session.State

namespace WindowKeeper.Session

variable {σ : Type} [Store σ]

def saveLater (s : Session σ) : Session σ :=
  callSettingsTimer { s with store := Store.requestSave s.store }

/-- Writes unsaved settings. -/
def flush (s : Session σ) : Except Settings.SaveError Unit × Session σ :=
  let (r, store, files) := Store.flush s.store s.files
  (r, { s with store := store, files := files })

/-- Remembers the placement of the window as if it were in this state. -/
def savePlacement (s : Session σ) (state : WindowState) : Outcome σ (Session σ) := do
  let now : Snapshot := ⟨s.window.geometry, state, s.window.visible, s.placed, s.columnWidth⟩
  match ← s.attempt (now.remember (Store.settings s.store).placement s.window.monitors
      s.config.scale s.config.leastSize) with
  | some p => return saveLater { s with store := Store.setPlacement p s.store }
  | none => return s

/-- Saves a placement that is waiting for rest, and writes unsaved settings. -/
def shutdown (s : Session σ) : Outcome σ (Except Settings.SaveError Unit × Session σ) := do
  let s ← if s.placementTimer.pending then
      savePlacement s.cancelPlacementTimer s.window.state
    else pure s
  return flush s.cancelSettingsTimer

end WindowKeeper.Session
