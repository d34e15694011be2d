import WindowKeeper.Proofs.Session.Course
import WindowKeeper.Proofs.Session.Handled
import WindowKeeper.Proofs.Session.Moved

namespace WindowKeeper

@[ext]
structure Attire where
  title : String
  unread : Nat
  config : Config
  quitting : Bool
  /-- The icon that the window shows, and the one that was made last with what it was made for. -/
  shown : Option Icon
  made : Option Icon
  support : Bool
  variant : Int

namespace Window

/-- The windows have the same title and the same icon. -/
def Alike (v w : Window) : Prop := v.title = w.title ∧ v.icon = w.icon

variable (w : Window)

theorem alike_setState (st : WindowState) : (w.setState st).1.Alike w := by
  unfold setState
  split <;> exact ⟨rfl, rfl⟩

theorem alike_setFocus (b : Bool) : (w.setFocus b).1.Alike w := by
  unfold setFocus
  split <;> exact ⟨rfl, rfl⟩

theorem alike_setVisible (b : Bool) : (w.setVisible b).1.Alike w := by
  unfold setVisible
  split
  · exact ⟨rfl, rfl⟩
  · cases b
    · exact alike_setFocus { w with visible := false } false
    · exact ⟨rfl, rfl⟩

theorem alike_raise : w.raise.1.Alike w := alike_setFocus { w with raises := w.raises + 1 } true

end Window

namespace Session

variable {σ : Type}

def attire (s : Session σ) : Attire where
  title := s.window.title
  unread := s.unread
  config := s.config
  quitting := s.quitting
  shown := s.window.icon
  made := s.icon
  support := s.iconSupport
  variant := s.iconShown

theorem attire_onWindow {s : Session σ} {f : Window → Window × List Event}
    (hf : (f s.window).1.Alike s.window) : (s.onWindow f).attire = s.attire := by
  simp only [attire, onWindow, hf.1, hf.2]

@[simp] theorem attire_setGeometry (s : Session σ) (r : Rect) :
    (s.onWindow (Window.setGeometry r)).attire = s.attire := rfl

@[simp] theorem attire_setState (s : Session σ) (st : WindowState) :
    (s.onWindow (Window.setState st)).attire = s.attire :=
  attire_onWindow (s.window.alike_setState st)

@[simp] theorem attire_setVisible (s : Session σ) (b : Bool) :
    (s.onWindow (Window.setVisible b)).attire = s.attire :=
  attire_onWindow (s.window.alike_setVisible b)

@[simp] theorem attire_setFocus (s : Session σ) (b : Bool) :
    (s.onWindow (Window.setFocus b)).attire = s.attire :=
  attire_onWindow (s.window.alike_setFocus b)

@[simp] theorem attire_raise (s : Session σ) : (s.onWindow Window.raise).attire = s.attire :=
  attire_onWindow s.window.alike_raise

@[simp] theorem attire_focus (s : Session σ) : (focus s).attire = s.attire := rfl

@[simp] theorem attire_blur (s : Session σ) : (blur s).attire = s.attire := rfl

@[simp] theorem attire_updateActive (s : Session σ) : (updateActive s).attire = s.attire := by
  unfold updateActive
  split <;> rfl

@[simp] theorem attire_hide (s : Session σ) : (hide s).attire = s.attire := by
  simp [hide]

@[simp] theorem attire_hideToTray (s : Session σ) : (hideToTray s).2.attire = s.attire :=
  hideToTray_keeps (P := fun r => r.attire = s.attire) rfl (attire_hide s) fun _ hr => hr

theorem attire_updateLeastSize {s t : Session σ} (h : updateLeastSize s = .ok t) :
    t.attire = s.attire := by
  simp only [updateLeastSize, bind_eq_ok, pure_eq_ok] at h
  obtain ⟨z, -, rfl⟩ := h
  rfl

theorem attire_widen {s t : Session σ} {width added : Int} (h : widen s width = .ok (added, t)) :
    t.attire = s.attire :=
  widen_keeps (P := fun r => r.attire = s.attire) h rfl (fun _ hr => hr) fun _ hr => hr

theorem attire_setRightColumn {s t : Session σ} {width : Option Int}
    (h : setRightColumn s width = .ok t) : t.attire = s.attire :=
  setRightColumn_keeps (P := fun r => r.attire = s.attire) h rfl (fun _ hr => hr) (fun _ hr => hr)
    fun _ hr => hr

variable [Store σ]

@[simp] theorem attire_activate (s : Session σ) : (activate s).attire = s.attire := by
  have hnote (b : Bool) (t : Session σ) : (if b then noteShown t else t).attire = t.attire := by
    cases b <;> rfl
  simp only [activate, hnote, attire_updateActive, attire_focus, attire_raise, attire_setVisible]
  split
  · exact attire_setState s _
  · rfl

theorem attire_hideNotQuit (s : Session σ) : (hideNotQuit s).2.attire = s.attire :=
  hideNotQuit_keeps (P := fun r => r.attire = s.attire) rfl (attire_hide s) (fun _ hr => hr)
    fun hr => hr

theorem attire_close (s : Session σ) :
    (close s).2.attire = s.attire ∨ (close s).2.attire = { s.attire with quitting := true } := by
  rw [← attire_hideNotQuit s]
  rcases close_eq s with hclose | hclose
  · rw [hclose]
    exact .inl rfl
  · rw [hclose]
    exact .inr rfl

@[simp] theorem attire_visibleChanged (s : Session σ) (b : Bool) :
    (visibleChanged s b).attire = s.attire := by
  simp only [visibleChanged, attire_updateActive]
  cases b
  · rfl
  · cases s.maximizedBeforeHide
    · rfl
    · exact attire_setState s .maximized

/-- The tray icon shows the window, or else leaves it dressed as it is. -/
theorem attire_trayActivated (s : Session σ) (a : TrayActivation) :
    trayActivated s a = showFromTray s ∨ (trayActivated s a).attire = s.attire := by
  cases a with
  | trigger =>
    simp only [trayActivated]
    split
    · exact .inr (attire_hideToTray s)
    · exact .inl rfl
  | doubleClick => exact .inl rfl
  | context | middleClick => exact .inr rfl

@[simp] theorem attire_workModeChanged (s : Session σ) (mode : WorkMode) :
    (workModeChanged s mode).attire = s.attire := by
  simp only [workModeChanged]
  split
  · split
    · rfl
    · rw [attire_activate]
      rfl
  · rfl

theorem attire_savePlacement {s t : Session σ} {state : WindowState}
    (h : savePlacement s state = .ok t) : t.attire = s.attire := by
  rcases savePlacement_eq_ok h with ⟨-, rfl⟩ | ⟨p, -, rfl⟩
  · rfl
  · rfl

theorem attire_stateChanged {s t : Session σ} {state : WindowState}
    (h : stateChanged s state = .ok t) : t.attire = s.attire := by
  have hactive : (updateActive (if state = .minimized then blur s else focus s)).attire =
      s.attire := by
    rw [attire_updateActive]
    split <;> rfl
  rw [stateChanged] at h
  generalize updateActive (if state = .minimized then blur s else focus s) = r at h hactive
  rw [attire_savePlacement h]
  split
  · rw [attire_hideToTray, hactive]
  · exact hactive

theorem attire_placementTimer {s t : Session σ} {g : UInt64}
    (h : handle s (.placementTimer g) = .ok t) : t.attire = s.attire := by
  rw [handle_placementTimer] at h
  split at h
  · have hsettle : s.settlePlacement.attire = s.attire := rfl
    exact (attire_savePlacement h).trans hsettle
  · cases h
    rfl

theorem attire_settingsTimer {s t : Session σ} {g : UInt64}
    (h : handle s (.settingsTimer g) = .ok t) : t.attire = s.attire := by
  rw [handle_settingsTimer] at h
  cases h
  split <;> rfl

/-- Opening the window gives it an icon and a title, and leaves it dressed so. -/
theorem init_dresses {s t : Session σ} (h : init s = .ok t) :
    ∃ r : Session σ, r.attire = (updateIcon s).attire ∧ t = updateTitle r := by
  simp only [init, openWindow, bind_eq_ok, pure_eq_ok] at h
  obtain ⟨_, ⟨u, hu, r, -, rfl⟩, rfl⟩ := h
  have hframe : (updateFrame (updateIcon s)).attire = (updateIcon s).attire := rfl
  exact ⟨_, (attire_setGeometry u r).trans ((attire_updateLeastSize hu).trans hframe), rfl⟩

omit [Store σ] in
theorem attire_nextEvent {s t : Session σ} {deadline : Nat} {e : Event}
    (hn : s.nextEvent? deadline = some (e, t)) :
    t.attire = s.attire := by
  rcases nextEvent_eq_some hn with ⟨es, -, rfl⟩ | ⟨-, c, -, rfl⟩
  · rfl
  · rfl

end Session

end WindowKeeper
