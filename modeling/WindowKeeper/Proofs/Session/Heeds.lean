import WindowKeeper.Proofs.Session.Course
import WindowKeeper.Proofs.Session.Handled
import WindowKeeper.Proofs.Session.Moved
import Mathlib.Data.List.Chain

namespace WindowKeeper

/-- Whether an event tells that the activity of the window may have changed. -/
def Event.ofActivity : Event → Bool
  | .activeChanged => true
  | .visibleChanged _ => true
  | .stateChanged _ => true
  | _ => false

namespace Window

variable {w : Window}

/-- A change of the window that is told if it is one of its activity. -/
def Tells (w v : Window) (es : List Event) : Prop :=
  v.isActive = w.isActive ∨ ∃ e ∈ es, e.ofActivity

theorem tells_setGeometry (r : Rect) : w.Tells (w.setGeometry r).1 (w.setGeometry r).2 := .inl rfl

theorem tells_setState (st : WindowState) : w.Tells (w.setState st).1 (w.setState st).2 := by
  unfold setState
  split
  · exact .inl rfl
  · exact .inr ⟨_, List.mem_singleton_self _, rfl⟩

theorem tells_setFocus (b : Bool) : w.Tells (w.setFocus b).1 (w.setFocus b).2 := by
  unfold setFocus
  split
  · exact .inl rfl
  · exact .inr ⟨_, List.mem_singleton_self _, rfl⟩

theorem tells_raise : w.Tells w.raise.1 w.raise.2 :=
  tells_setFocus (w := { w with raises := w.raises + 1 }) true

theorem tells_setVisible (b : Bool) : w.Tells (w.setVisible b).1 (w.setVisible b).2 := by
  have hevents := w.setVisible_events b
  by_cases hv : w.visible = b
  · left
    rw [setVisible, if_pos hv]
  · right
    rw [hevents, if_neg hv]
    exact ⟨.visibleChanged b, List.mem_append_right _ (List.mem_singleton_self _), rfl⟩

end Window

/-- What was told of the activity from the start goes to and fro between active and not, beginning
with active and ending with what is so now. -/
def Told (told : List Bool) (now : Bool) : Prop :=
  (told = [] ∧ now = false) ∨
    (told.head? = some true ∧ told.IsChain (· ≠ ·) ∧ told.getLast? = some now)

theorem Told.append {told : List Bool} {now later : Bool} (h : Told told now) (hne : now ≠ later) :
    Told (told ++ [later]) later := by
  right
  rcases h with ⟨rfl, rfl⟩ | ⟨hfirst, halternate, hlast⟩
  · cases later with
    | false => exact absurd rfl hne
    | true => exact ⟨rfl, .singleton true, rfl⟩
  · refine ⟨by simp [hfirst], ?_, by simp⟩
    rw [List.isChain_append]
    refine ⟨halternate, .singleton later, ?_⟩
    intro a ha b hb
    rw [hlast, Option.mem_some_iff] at ha
    rw [List.head?_cons, Option.mem_some_iff] at hb
    rwa [← ha, ← hb]

namespace Session

variable {σ : Type} {s t u : Session σ}

/-- The session takes its window to be active exactly if it is, unless it is going to be told. -/
def Aware (s : Session σ) : Prop := s.active = s.window.isActive ∨ ∃ e ∈ s.queue, e.ofActivity

/-- On the way from `s` to `t` no change of the activity is missed. -/
structure Heeds (s t : Session σ) : Prop where
  aware : s.Aware → t.Aware
  told : Told s.requests.activity s.active → Told t.requests.activity t.active
  silent : t.requests.activity = [] → s.requests.activity = []

theorem Heeds.refl (s : Session σ) : s.Heeds s := ⟨id, id, id⟩

theorem Heeds.trans (h : s.Heeds t) (h' : t.Heeds u) : s.Heeds u :=
  ⟨fun hs => h'.aware (h.aware hs), fun hs => h'.told (h.told hs),
    fun hu => h.silent (h'.silent hu)⟩

/-- What changes something else, and drops no event. -/
theorem heeds_of_same (hwindow : s.window.Tells t.window t.queue) (hactive : t.active = s.active)
    (hactivity : t.requests.activity = s.requests.activity) (hqueue : ∀ e ∈ s.queue, e ∈ t.queue) :
    s.Heeds t where
  aware hs := by
    rcases hwindow with hsame | htold
    · rcases hs with hknown | ⟨e, he, hactivity⟩
      · left
        rw [hactive, hknown, hsame]
      · exact .inr ⟨e, hqueue e he, hactivity⟩
    · exact .inr htold
  told hs := by rwa [hactivity, hactive]
  silent ht := by rwa [← hactivity]

theorem heeds_onWindow {f : Window → Window × List Event}
    (hf : s.window.Tells (f s.window).1 (f s.window).2) : s.Heeds (s.onWindow f) := by
  have htold : s.window.Tells (s.onWindow f).window (s.onWindow f).queue :=
    hf.imp_right fun ⟨e, he, hactivity⟩ => ⟨e, List.mem_append_right _ he, hactivity⟩
  exact heeds_of_same htold rfl rfl fun e he => List.mem_append_left _ he

/-- Updating the activity makes it known, whatever was missed before. -/
theorem aware_updateActive (s : Session σ) : (updateActive s).Aware := by
  left
  rw [window_updateActive, updateActive]
  split
  · assumption
  · rfl

theorem heeds_updateActive (s : Session σ) : s.Heeds (updateActive s) where
  aware _ := aware_updateActive s
  told hs := by
    unfold updateActive
    split
    · exact hs
    · rename_i hne
      exact hs.append hne
  silent ht := by
    unfold updateActive at ht
    split at ht
    · exact ht
    · exact absurd ht (by simp)

/-- What only queues events. -/
theorem heeds_queued (es : List Event)
    (ht : t = { s with queue := s.queue ++ es, clock := t.clock }) : s.Heeds t := by
  rw [ht]
  exact heeds_of_same (.inl rfl) rfl rfl fun _ he => List.mem_append_left _ he

theorem heeds_idle (hwindow : t.window.isActive = s.window.isActive)
    (hactive : t.active = s.active) (hactivity : t.requests.activity = s.requests.activity)
    (hqueue : t.queue = s.queue) : s.Heeds t :=
  heeds_of_same (.inl hwindow) hactive hactivity fun _ he => hqueue ▸ he

theorem heeds_updateTitle (s : Session σ) : s.Heeds (updateTitle s) := by
  unfold updateTitle
  split
  · exact .refl s
  · exact heeds_idle rfl rfl rfl rfl

theorem heeds_updateIcon (s : Session σ) : s.Heeds (updateIcon s) := by
  have hrenewed : s.Heeds (renewIcon s) := by
    unfold renewIcon
    split
    · split
      · exact heeds_idle rfl rfl rfl rfl
      · exact .refl s
    · exact .refl s
  simp only [updateIcon]
  split
  · exact hrenewed.trans (heeds_idle rfl rfl rfl rfl)
  · exact hrenewed

theorem heeds_updateLeastSize (h : updateLeastSize s = .ok t) : s.Heeds t := by
  simp only [updateLeastSize, bind_eq_ok, pure_eq_ok] at h
  obtain ⟨z, -, rfl⟩ := h
  exact heeds_idle rfl rfl rfl rfl

theorem heeds_hide (s : Session σ) : s.Heeds (hide s) := by
  have hhidden := heeds_onWindow (s := s) (Window.tells_setVisible false)
  have hblurred : (s.onWindow (Window.setVisible false)).Heeds
      (blur (s.onWindow (Window.setVisible false))) := heeds_idle rfl rfl rfl rfl
  exact (hhidden.trans hblurred).trans (heeds_updateActive _)

theorem heeds_hideToTray (s : Session σ) : s.Heeds (hideToTray s).2 :=
  hideToTray_keeps (.refl s) (heeds_hide s) fun _ hr => hr.trans (heeds_idle rfl rfl rfl rfl)

theorem heeds_widen {width added : Int} (h : widen s width = .ok (added, t)) : s.Heeds t :=
  widen_keeps h (.refl s) (fun _ hr => hr.trans (heeds_idle rfl rfl rfl rfl))
    fun g hr => hr.trans (heeds_onWindow (Window.tells_setGeometry g))

theorem heeds_setRightColumn {width : Option Int} (h : setRightColumn s width = .ok t) :
    s.Heeds t := by
  have hcolumn : s.Heeds { s with rightColumn := width } := heeds_idle rfl rfl rfl rfl
  exact setRightColumn_keeps h hcolumn (fun _ hr => hr.trans (heeds_idle rfl rfl rfl rfl))
    (fun g hr => hr.trans (heeds_onWindow (Window.tells_setGeometry g)))
    fun _ hr => hr.trans (heeds_idle rfl rfl rfl rfl)

variable [Store σ]

theorem heeds_activate (s : Session σ) : s.Heeds (activate s) := by
  have hwake : s.Heeds (if s.window.state = .minimized then
      s.onWindow (Window.setState s.wakeState) else s) := by
    split
    · exact heeds_onWindow (Window.tells_setState _)
    · exact .refl s
  have hfocus (r : Session σ) : r.Heeds (focus r) := heeds_idle rfl rfl rfl rfl
  have hshow := hwake.trans (heeds_onWindow (Window.tells_setVisible true))
  have hraise := hshow.trans (heeds_onWindow Window.tells_raise)
  have hactive := (hraise.trans (hfocus _)).trans (heeds_updateActive _)
  have hnote (b : Bool) (r : Session σ) : r.Heeds (if b then noteShown r else r) := by
    cases b
    · exact .refl r
    · exact heeds_idle rfl rfl rfl rfl
  exact hactive.trans (hnote _ _)

theorem heeds_hideNotQuit (s : Session σ) : s.Heeds (hideNotQuit s).2 :=
  hideNotQuit_keeps (.refl s) (heeds_hide s) (fun _ hr => hr.trans (heeds_idle rfl rfl rfl rfl))
    fun hr => hr.trans (heeds_idle rfl rfl rfl rfl)

theorem heeds_close (s : Session σ) : s.Heeds (close s).2 := by
  have hhidden := heeds_hideNotQuit s
  rcases close_eq s with hclose | hclose
  · rwa [hclose]
  · rw [hclose]
    exact hhidden.trans (heeds_idle rfl rfl rfl rfl)

theorem heeds_saveLater (s : Session σ) (st : σ) : s.Heeds (saveLater { s with store := st }) :=
  heeds_idle rfl rfl rfl rfl

theorem heeds_savePlacement {st : WindowState} (h : savePlacement s st = .ok t) : s.Heeds t := by
  rcases savePlacement_eq_ok h with ⟨-, rfl⟩ | ⟨p, -, rfl⟩
  · exact .refl _
  · exact heeds_saveLater _ _

theorem heeds_init (h : init s = .ok t) : s.Heeds t := by
  simp only [init, openWindow, bind_eq_ok, pure_eq_ok, attempt_eq_ok] at h
  obtain ⟨_, ⟨v, hv, r, -, rfl⟩, rfl⟩ := h
  have hframe : (updateIcon s).Heeds (updateFrame (updateIcon s)) := heeds_idle rfl rfl rfl rfl
  have hleast := ((heeds_updateIcon s).trans hframe).trans (heeds_updateLeastSize hv)
  have hopened := hleast.trans (heeds_onWindow (Window.tells_setGeometry r))
  exact hopened.trans (heeds_updateTitle _)

theorem heeds_visibleChanged (s : Session σ) (b : Bool) : s.Heeds (visibleChanged s b) := by
  refine Heeds.trans ?_ (heeds_updateActive _)
  cases b with
  | false => exact heeds_idle rfl rfl rfl rfl
  | true =>
    cases s.maximizedBeforeHide with
    | false => exact .refl s
    | true => exact heeds_onWindow (Window.tells_setState .maximized)

/-- A change of the state is known at once, and heeded from then on. -/
theorem stateChanged_known {st : WindowState} (h : stateChanged s st = .ok t) :
    ∃ r, s.Heeds r ∧ r.Aware ∧ r.Heeds t := by
  simp only [stateChanged] at h
  have hnoted : s.Heeds (if st = .minimized then blur s else focus s) := by
    split <;> exact heeds_idle rfl rfl rfl rfl
  have hupdated := hnoted.trans (heeds_updateActive _)
  have haware := aware_updateActive (if st = .minimized then blur s else focus s)
  generalize updateActive (if st = .minimized then blur s else focus s) = r at *
  refine ⟨r, hupdated, haware, Heeds.trans ?_ (heeds_savePlacement h)⟩
  split
  · exact heeds_hideToTray r
  · exact .refl r

theorem heeds_stateChanged {st : WindowState} (h : stateChanged s st = .ok t) : s.Heeds t := by
  obtain ⟨r, hr, -, ht⟩ := stateChanged_known h
  exact hr.trans ht

theorem heeds_showFromTray (s : Session σ) : s.Heeds (showFromTray s) :=
  (heeds_activate s).trans (heeds_updateTitle _)

theorem heeds_trayActivated (s : Session σ) (a : TrayActivation) : s.Heeds (trayActivated s a) := by
  cases a with
  | trigger =>
    simp only [trayActivated]
    split
    · exact heeds_hideToTray s
    · exact heeds_showFromTray s
  | doubleClick => exact heeds_showFromTray s
  | context | middleClick => exact .refl s

theorem heeds_workModeChanged (s : Session σ) (mode : WorkMode) :
    s.Heeds (workModeChanged s mode) := by
  have hlater := heeds_saveLater s (Store.setWorkMode mode s.store)
  have hdetach (r : Session σ) : r.Heeds (detachTray r) := heeds_idle rfl rfl rfl rfl
  simp only [workModeChanged]
  split
  · split
    · exact hlater.trans (hdetach _)
    · exact (hlater.trans (hdetach _)).trans (heeds_activate _)
  · exact hlater

theorem heeds_placementTimer {g : UInt64} (h : handle s (.placementTimer g) = .ok t) :
    s.Heeds t := by
  rw [handle_placementTimer] at h
  split at h
  · have hsettled : s.Heeds s.settlePlacement := heeds_idle rfl rfl rfl rfl
    exact hsettled.trans (heeds_savePlacement h)
  · cases h
    exact .refl s

theorem heeds_settingsTimer {g : UInt64} (h : handle s (.settingsTimer g) = .ok t) :
    s.Heeds t := by
  rw [handle_settingsTimer] at h
  cases h
  split
  · exact heeds_idle rfl rfl rfl rfl
  · exact .refl s

/-- An event that may be of the activity makes it known. -/
theorem aware_handle {e : Event} (he : e.ofActivity) (h : handle s e = .ok t) : t.Aware := by
  cases e with
  | stateChanged st =>
    obtain ⟨r, -, hr, ht⟩ := stateChanged_known h
    exact ht.aware hr
  | visibleChanged b =>
    cases h
    exact aware_updateActive _
  | activeChanged =>
    cases h
    exact aware_updateActive s
  | _ => cases he

end Session

end WindowKeeper
