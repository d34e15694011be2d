import WindowKeeper.Proofs.Outcome
import WindowKeeper.Session.Handle

namespace WindowKeeper

theorem Window.setVisible_events (w : Window) (b : Bool) :
    (w.setVisible b).2 = if w.visible = b then []
      else (if !b && w.focused then [.activeChanged] else []) ++ [.visibleChanged b] := by
  unfold Window.setVisible Window.setFocus
  cases b <;> cases w.visible <;> cases w.focused <;> simp

theorem Window.setState_events (w : Window) (st : WindowState) :
    (w.setState st).2 = if w.state = st then [] else [.stateChanged st] := by
  unfold Window.setState
  split <;> rfl

theorem Window.raise_events (w : Window) :
    w.raise.2 = if w.focused then [] else [.activeChanged] := by
  unfold Window.raise Window.setFocus
  cases hf : w.focused <;> simp

theorem Window.mem_setGeometry {w : Window} {r : Rect} {e : Event} (h : e ∈ (w.setGeometry r).2) :
    e = .moved ∨ e = .resized := by
  rcases List.mem_append.mp h with h | h
  · left
    split at h <;> simp_all
  · right
    split at h <;> simp_all

theorem Window.setGeometry_eq_nil {w : Window} {r : Rect} (h : (w.setGeometry r).2 = []) :
    r = w.geometry := by
  obtain ⟨hcorner, hsize⟩ := List.append_eq_nil_iff.mp h
  have hc : w.geometry.corner = r.corner := by
    by_cases hc : w.geometry.corner = r.corner
    · exact hc
    · rw [if_neg hc] at hcorner
      cases hcorner
  have hz : w.geometry.size = r.size := by
    by_cases hz : w.geometry.size = r.size
    · exact hz
    · rw [if_neg hz] at hsize
      cases hsize
  have hx := congrArg Point.x hc
  have hy := congrArg Point.y hc
  have hw := congrArg Size.w hz
  have hh := congrArg Size.h hz
  exact Rect.ext hx.symm hy.symm hw.symm hh.symm

@[ext]
structure Core (σ : Type) where
  geometry : Rect
  state : WindowState
  visible : Bool
  monitors : List Monitor
  store : σ
  files : Tree
  config : Config
  quitting : Bool
  trayAttached : Bool
  placementTimer : Timer
  settingsTimer : Timer
  placed : Bool
  maximizedBeforeHide : Bool
  rightColumn : Option Int
  queue : List Event
  clock : Clock Event

namespace Session

variable {σ : Type}

def core (s : Session σ) : Core σ where
  geometry := s.window.geometry
  state := s.window.state
  visible := s.window.visible
  monitors := s.window.monitors
  store := s.store
  files := s.files
  config := s.config
  quitting := s.quitting
  trayAttached := s.trayAttached
  placementTimer := s.placementTimer
  settingsTimer := s.settingsTimer
  placed := s.placed
  maximizedBeforeHide := s.maximizedBeforeHide
  rightColumn := s.rightColumn
  queue := s.queue
  clock := s.clock

theorem core_setVisible (s : Session σ) (b : Bool) :
    (s.onWindow (Window.setVisible b)).core =
      { s.core with visible := b, queue := s.queue ++ (s.window.setVisible b).2 } := by
  unfold onWindow Window.setVisible Window.setFocus core
  by_cases hv : s.window.visible = b
  · simp [hv]
  · cases b <;> cases s.window.focused <;> simp [hv]

theorem core_setState (s : Session σ) (st : WindowState) :
    (s.onWindow (Window.setState st)).core =
      { s.core with state := st, queue := s.queue ++ (s.window.setState st).2 } := by
  unfold onWindow Window.setState core
  by_cases hs : s.window.state = st <;> simp [hs]

theorem core_setFocus (s : Session σ) (b : Bool) :
    (s.onWindow (Window.setFocus b)).core =
      { s.core with queue := s.queue ++ (s.window.setFocus b).2 } := by
  unfold onWindow Window.setFocus core
  by_cases hf : s.window.focused = b <;> simp [hf]

theorem core_raise (s : Session σ) :
    (s.onWindow Window.raise).core = { s.core with queue := s.queue ++ s.window.raise.2 } := by
  unfold onWindow Window.raise Window.setFocus core
  cases hf : s.window.focused <;> simp

theorem core_setGeometry (s : Session σ) (r : Rect) :
    (s.onWindow (Window.setGeometry r)).core =
      { s.core with geometry := r, queue := s.queue ++ (s.window.setGeometry r).2 } := rfl

@[simp] theorem core_updateActive (s : Session σ) : (updateActive s).core = s.core := by
  unfold updateActive
  split <;> rfl

@[simp] theorem window_updateActive (s : Session σ) : (updateActive s).window = s.window := by
  unfold updateActive
  split <;> rfl

@[simp] theorem queue_updateActive (s : Session σ) : (updateActive s).queue = s.queue :=
  congrArg Core.queue (core_updateActive s)

@[simp] theorem core_focus (s : Session σ) : (focus s).core = s.core := rfl

@[simp] theorem core_blur (s : Session σ) : (blur s).core = s.core := rfl

@[simp] theorem core_showList (s : Session σ) : (showList s).core = s.core := rfl

@[simp] theorem core_updateTitle (s : Session σ) : (updateTitle s).core = s.core := by
  unfold updateTitle
  split <;> rfl

@[simp] theorem core_renewIcon (s : Session σ) : (renewIcon s).core = s.core := by
  unfold renewIcon
  split
  · split <;> rfl
  · rfl

@[simp] theorem core_updateIcon (s : Session σ) : (updateIcon s).core = s.core := by
  have hr := core_renewIcon s
  simp only [updateIcon]
  split
  · exact hr
  · exact hr

theorem core_updateLeastSize {s t : Session σ} (h : updateLeastSize s = .ok t) :
    t.core = s.core := by
  simp only [updateLeastSize, bind_eq_ok, pure_eq_ok] at h
  obtain ⟨z, -, rfl⟩ := h
  rfl

theorem core_hide (s : Session σ) :
    (hide s).core =
      { s.core with visible := false, queue := s.queue ++ (s.window.setVisible false).2 } := by
  rw [hide, core_updateActive, core_blur, core_setVisible]

variable [Store σ]

@[simp] theorem core_updateFrame (s : Session σ) : (updateFrame s).core = s.core := rfl

/-- The state in which a minimized window is shown again. -/
def wakeState (s : Session σ) : WindowState :=
  if (Store.settings s.store).placement.maximized then .maximized else .normal

/-- The events that showing the window queues. -/
def showEvents (s : Session σ) : List Event :=
  (if s.window.state = .minimized then [.stateChanged s.wakeState] else []) ++
    (if s.window.visible then [] else [.visibleChanged true]) ++
    if s.window.focused then [] else [.activeChanged]

theorem wakeState_ne (s : Session σ) : s.wakeState ≠ .minimized := by
  unfold wakeState
  split <;> decide

theorem core_activate (s : Session σ) :
    (activate s).core =
      { s.core with
        state := if s.window.state = .minimized then s.wakeState else s.window.state
        visible := true
        queue := s.queue ++ s.showEvents } := by
  have hwake := s.wakeState_ne.symm
  have hnote (b : Bool) (t : Session σ) : (if b then noteShown t else t).core = t.core := by
    cases b <;> rfl
  simp only [activate, hnote, core_updateActive, core_focus]
  change ((Session.onWindow (Session.onWindow (if s.window.state = .minimized then
    s.onWindow (Window.setState s.wakeState) else s) _) _)).core = _
  rw [core_raise, core_setVisible]
  by_cases hm : s.window.state = .minimized
  · rw [if_pos hm, core_setState]
    simp only [onWindow, Window.raise_events, Window.setVisible_events, showEvents, hm]
    cases hv : s.window.visible <;> cases hf : s.window.focused <;>
      simp [Window.setState, Window.setVisible, core, hm, hv, hf, hwake]
  · rw [if_neg hm]
    simp only [onWindow, Window.raise_events, Window.setVisible_events, showEvents, hm]
    cases hv : s.window.visible <;> cases hf : s.window.focused <;>
      simp [Window.setVisible, core, hv, hf]

end Session

end WindowKeeper
