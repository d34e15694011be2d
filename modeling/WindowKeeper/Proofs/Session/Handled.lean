import WindowKeeper.Proofs.Session.Core

namespace WindowKeeper

/-- Whether an event of this number is that of the latest call, not yet settled. -/
def Timer.awaits (t : Timer) (g : UInt64) : Bool := t.pending && g == t.generation

/-- The timer with nothing to wait for. -/
def Timer.settled (t : Timer) : Timer := { t with pending := false }

theorem Timer.confirm_eq (t : Timer) (g : UInt64) :
    t.confirm g = if t.awaits g then (true, t.settled) else (false, t) := rfl

namespace Session

variable {σ : Type}

@[simp] theorem core_callPlacementTimer (s : Session σ) :
    s.callPlacementTimer.core =
      { s.core with
        placementTimer := (s.placementTimer.call .placementTimer s.clock).1
        clock := (s.placementTimer.call .placementTimer s.clock).2 } := rfl

/-- Whether an event makes the session save the placement that waits for rest. -/
def settles (s : Session σ) : Event → Bool
  | .placementTimer g => s.placementTimer.awaits g
  | _ => false

theorem settles_of_idle {s : Session σ} (hs : s.placementTimer.pending = false) (e : Event) :
    s.settles e = false := by
  cases e <;> simp [settles, Timer.awaits, hs]

/-- `t` is `s` with its window hidden, apart from how it looks. The session goes on, and there is a
way back to the window. -/
structure Hides (s t : Session σ) : Prop where
  running : s.quitting = false
  wayBack : s.trayAttached ∨ s.config.hidesOnClose
  core : t.core = (hide s).core

theorem listShown_hide (s : Session σ) :
    (hide s).requests.listShown = s.requests.listShown := by
  rw [hide, updateActive]
  split <;> rfl

theorem hideToTray_keeps {P : Session σ → Prop} {s : Session σ} (hs : P s) (hhide : P (hide s))
    (htray : ∀ {r : Session σ} (tray : Tray), P r → P { r with tray := tray }) :
    P (hideToTray s).2 := by
  unfold hideToTray
  split
  · exact hs
  · exact htray _ hhide

theorem hideToTray_cases (s : Session σ) :
    hideToTray s = (false, s) ∨ ∃ t, hideToTray s = (true, t) ∧ s.Hides t ∧
      t.requests.listShown = s.requests.listShown := by
  unfold hideToTray
  split
  · exact .inl rfl
  · rename_i hallowed
    obtain ⟨hrunning, hattached⟩ : s.quitting = false ∧ s.trayAttached = true := by
      simpa using hallowed
    exact .inr ⟨_, rfl, ⟨hrunning, .inl hattached, rfl⟩, listShown_hide s⟩

theorem core_hideToTray (s : Session σ) :
    (hideToTray s).2.core = s.core ∨ s.Hides (hideToTray s).2 := by
  rcases hideToTray_cases s with hstays | ⟨t, hhidden, ht, -⟩
  · rw [hstays]
    exact .inl rfl
  · rw [hhidden]
    exact .inr ht

variable [Store σ]

@[simp] theorem core_saveLater (s : Session σ) :
    (saveLater s).core =
      { s.core with
        store := Store.requestSave s.store
        settingsTimer := (s.settingsTimer.call .settingsTimer s.clock).1
        clock := (s.settingsTimer.call .settingsTimer s.clock).2 } := rfl

/-- The window as it would be saved in a state. -/
def snapshot (s : Session σ) (state : WindowState) : Snapshot :=
  ⟨s.window.geometry, state, s.window.visible, s.placed, s.columnWidth⟩

def record (s : Session σ) : Placement := (Store.settings s.store).placement

/-- The record worth writing for the window in a state. -/
def newRecord (s : Session σ) (state : WindowState) : Except Overflow (Option Placement) :=
  (s.snapshot state).remember s.record s.window.monitors s.config.scale s.config.leastSize

def storeRecord (s : Session σ) (p : Placement) : Session σ :=
  saveLater { s with store := Store.setPlacement p s.store }

theorem savePlacement_eq_ok {s t : Session σ} {state : WindowState}
    (h : savePlacement s state = .ok t) :
    (s.newRecord state = .ok none ∧ t = s) ∨
      ∃ p, s.newRecord state = .ok (some p) ∧ t = s.storeRecord p := by
  simp only [savePlacement, bind_eq_ok, attempt_eq_ok] at h
  obtain ⟨p, hp, h⟩ := h
  cases p with
  | none =>
    rw [pure_eq_ok] at h
    exact .inl ⟨hp, h.symm⟩
  | some p =>
    rw [pure_eq_ok] at h
    exact .inr ⟨p, hp, h.symm⟩

/-- A placement that waits for rest is saved before the settings are written. -/
theorem shutdown_eq_ok {s t : Session σ} {r : Except Settings.SaveError Unit}
    (h : shutdown s = .ok (r, t)) :
    ∃ u, flush u.cancelSettingsTimer = (r, t) ∧
      if s.placementTimer.pending then
        savePlacement s.cancelPlacementTimer s.window.state = .ok u
      else u = s := by
  simp only [shutdown] at h
  split
  · rename_i hp
    simp only [if_pos hp, bind_eq_ok, pure_eq_ok] at h
    obtain ⟨u, hu, h⟩ := h
    exact ⟨u, h, hu⟩
  · rename_i hp
    simp only [if_neg hp, bind_eq_ok, pure_eq_ok] at h
    obtain ⟨u, rfl, h⟩ := h
    exact ⟨s, h, rfl⟩

/-- A shutdown touches what is stored and the timers only. -/
theorem shutdown_touches {s t : Session σ} {r : Except Settings.SaveError Unit}
    (h : shutdown s = .ok (r, t)) : ∃ store files placementTimer settingsTimer clock,
      t = { s with
        store := store, files := files, placementTimer := placementTimer
        settingsTimer := settingsTimer, clock := clock } := by
  obtain ⟨u, hflush, hu⟩ := shutdown_eq_ok h
  obtain rfl : t = (flush u.cancelSettingsTimer).2 := congrArg Prod.snd hflush.symm
  split at hu
  · rcases savePlacement_eq_ok hu with ⟨-, rfl⟩ | ⟨p, -, rfl⟩
    · exact ⟨_, _, _, _, _, rfl⟩
    · exact ⟨_, _, _, _, _, rfl⟩
  · rw [hu]
    exact ⟨_, _, _, _, _, rfl⟩

def settlePlacement (s : Session σ) : Session σ :=
  { s with placementTimer := s.placementTimer.settled }

theorem handle_placementTimer (s : Session σ) (g : UInt64) :
    handle s (.placementTimer g) =
      if s.placementTimer.awaits g then savePlacement s.settlePlacement s.window.state
      else .ok s := by
  rw [handle, Timer.confirm_eq]
  cases s.placementTimer.awaits g <;> rfl

def settleSettings (s : Session σ) : Session σ :=
  { s with settingsTimer := s.settingsTimer.settled }

theorem handle_settingsTimer (s : Session σ) (g : UInt64) :
    handle s (.settingsTimer g) =
      .ok (if s.settingsTimer.awaits g then (flush s.settleSettings).2 else s) := by
  rw [handle, Timer.confirm_eq]
  cases s.settingsTimer.awaits g <;> rfl

/-- What is kept by hiding the window, by another tray and by showing the list is kept by hiding the
window in place of quitting. -/
theorem hideNotQuit_keeps {P : Session σ → Prop} {s : Session σ} (hs : P s) (hhide : P (hide s))
    (htray : ∀ {r : Session σ} (tray : Tray), P r → P { r with tray := tray })
    (hlist : ∀ {r : Session σ}, P r → P (showList r)) : P (hideNotQuit s).2 := by
  have hkept := hideToTray_keeps hs hhide htray
  unfold hideNotQuit
  split
  · exact hs
  · split
    · split
      · rename_i r hr
        rw [hr] at hkept
        exact hlist hkept
      · rename_i r hr
        rwa [hr] at hkept
    · split
      · exact hlist hhide
      · exact hs

theorem close_eq (s : Session σ) :
    (close s).2 = (hideNotQuit s).2 ∨ (close s).2 = quit (hideNotQuit s).2 := by
  unfold close
  split
  · rename_i r hr
    rw [hr]
    exact .inl rfl
  · rename_i r hr
    rw [hr]
    exact .inr rfl

theorem hideNotQuit_cases (s : Session σ) :
    hideNotQuit s = (false, s) ∨ ∃ t, hideNotQuit s = (true, t) ∧ s.Hides t ∧
      t.requests.listShown = s.requests.listShown + 1 := by
  unfold hideNotQuit
  split
  · exact .inl rfl
  · rename_i hquitting
    split
    · rcases hideToTray_cases s with hstays | ⟨t, hhidden, ht, hlist⟩
      · rw [hstays]
        exact .inl rfl
      · rw [hhidden]
        exact .inr ⟨_, rfl, { ht with }, congrArg (· + 1) hlist⟩
    · split
      · rename_i hcloses
        exact .inr ⟨_, rfl, ⟨eq_false_of_ne_true hquitting, .inr hcloses, rfl⟩,
          congrArg (· + 1) (listShown_hide s)⟩
      · exact .inl rfl

/-- Closing the window hides it, or else quits and leaves the window as it is. -/
theorem close_cases (s : Session σ) :
    close s = (false, quit s) ∨ ∃ t, close s = (true, t) ∧ s.Hides t ∧
      t.requests.listShown = s.requests.listShown + 1 := by
  unfold close
  rcases hideNotQuit_cases s with hstays | ⟨t, hhidden, ht⟩
  · rw [hstays]
    exact .inl rfl
  · rw [hhidden]
    exact .inr ⟨t, rfl, ht⟩

theorem core_close (s : Session σ) :
    s.Hides (close s).2 ∨ (close s).2.core = { s.core with quitting := true } := by
  rcases close_cases s with hquits | ⟨t, hhidden, ht, -⟩
  · rw [hquits]
    exact .inr rfl
  · rw [hhidden]
    exact .inl ht

theorem core_trayActivated (s : Session σ) (a : TrayActivation) :
    (trayActivated s a).core = s.core ∨ s.Hides (trayActivated s a) ∨
      (trayActivated s a).core = (activate s).core := by
  cases a with
  | trigger =>
    simp only [trayActivated, showFromTray]
    split
    · exact (core_hideToTray s).imp_right .inl
    · exact .inr (.inr (core_updateTitle _))
  | doubleClick => exact .inr (.inr (core_updateTitle _))
  | context => exact .inl rfl
  | middleClick => exact .inl rfl

theorem core_visibleChanged (s : Session σ) (b : Bool) :
    (visibleChanged s b).core =
      if b then
        if s.maximizedBeforeHide then (s.onWindow (Window.setState .maximized)).core else s.core
      else { s.core with maximizedBeforeHide := s.record.maximized } := by
  simp only [visibleChanged, core_updateActive]
  cases b
  · rfl
  · cases s.maximizedBeforeHide <;> rfl

/-- The session in another mode, before its window is shown for the lack of a tray icon. -/
def enterMode (s : Session σ) (mode : WorkMode) : Session σ :=
  { saveLater { s with store := Store.setWorkMode mode s.store } with
    trayAttached := if mode = .windowOnly then false else s.trayAttached }

theorem core_workModeChanged (s : Session σ) (mode : WorkMode) :
    ((mode = .windowOnly → s.window.visible) ∧
        (workModeChanged s mode).core = (s.enterMode mode).core) ∨
      s.window.visible = false ∧
        (workModeChanged s mode).core = (activate (s.enterMode mode)).core := by
  have hwindow : (s.enterMode mode).window = s.window := rfl
  by_cases hm : mode = .windowOnly
  · have hdetach : detachTray (saveLater { s with store := Store.setWorkMode mode s.store }) =
        s.enterMode mode := by
      simp [enterMode, detachTray, hm]
    simp only [workModeChanged, if_pos hm, hdetach, hwindow]
    cases hv : s.window.visible with
    | false => exact .inr ⟨rfl, rfl⟩
    | true => exact .inl ⟨fun _ => rfl, rfl⟩
  · refine .inl ⟨fun hmode => absurd hmode hm, ?_⟩
    simp only [workModeChanged, enterMode, if_neg hm]
    rfl

/-- The session with another choice of the frame to be written. -/
def chooseFrame (s : Session σ) (native : Bool) : Session σ :=
  saveLater { s with store := Store.setNativeFrame native s.store }

theorem core_nativeFrameChanged {s t : Session σ} {native : Bool}
    (h : handle s (.nativeFrameChanged native) = .ok t) : t.core = (s.chooseFrame native).core := by
  rw [handle] at h
  exact (core_updateLeastSize h).trans (core_updateFrame _)

theorem newRecord_congr {r s : Session σ} (h : r.core = s.core) (st : WindowState) :
    r.newRecord st = s.newRecord st := by
  have hgeometry : r.window.geometry = s.window.geometry := congrArg Core.geometry h
  have hvisible : r.window.visible = s.window.visible := congrArg Core.visible h
  have hmonitors : r.window.monitors = s.window.monitors := congrArg Core.monitors h
  have hstore : r.store = s.store := congrArg Core.store h
  have hconfig : r.config = s.config := congrArg Core.config h
  have hplaced : r.placed = s.placed := congrArg Core.placed h
  have hcolumn : r.rightColumn = s.rightColumn := congrArg Core.rightColumn h
  simp only [newRecord, snapshot, record, columnWidth, hgeometry, hvisible, hmonitors, hstore,
    hconfig, hplaced, hcolumn]

theorem storeRecord_congr {r s : Session σ} (h : r.core = s.core) (p : Placement) :
    (r.storeRecord p).core = (s.storeRecord p).core := by
  have hstored (u : Session σ) : (u.storeRecord p).core = { u.core with
      store := Store.requestSave (Store.setPlacement p u.core.store)
      settingsTimer := (u.core.settingsTimer.call .settingsTimer u.core.clock).1
      clock := (u.core.settingsTimer.call .settingsTimer u.core.clock).2 } := rfl
  rw [hstored, hstored, h]

/-- No placement of a minimized window is saved. -/
theorem savePlacement_minimized {s t : Session σ} (h : savePlacement s .minimized = .ok t) :
    t = s := by
  have hnone : s.newRecord .minimized = .ok none := rfl
  rcases savePlacement_eq_ok h with ⟨-, ht⟩ | ⟨p, hp, -⟩
  · exact ht
  · rw [hnone] at hp
    cases hp

/-- A change of state saves the placement of a session that has at most been hidden. -/
theorem stateChanged_eq (s : Session σ) (state : WindowState) :
    ∃ r : Session σ, stateChanged s state = savePlacement r state ∧
      (r.core = s.core ∨ state = .minimized ∧ s.Hides r) := by
  refine ⟨_, rfl, ?_⟩
  by_cases hm : state = .minimized
  · have hblur : (updateActive (blur s)).core = s.core := core_updateActive (blur s)
    have hquitting : (updateActive (blur s)).quitting = s.quitting := congrArg Core.quitting hblur
    have hattached : (updateActive (blur s)).trayAttached = s.trayAttached :=
      congrArg Core.trayAttached hblur
    have hconfig : (updateActive (blur s)).config = s.config := congrArg Core.config hblur
    simp only [hm, if_true, true_and]
    split
    · rcases core_hideToTray (updateActive (blur s)) with hcore | ⟨hrunning, hback, hcore⟩
      · exact .inl (hcore.trans hblur)
      · refine .inr ⟨hquitting ▸ hrunning, hattached ▸ hconfig ▸ hback, hcore.trans ?_⟩
        rw [core_hide, core_hide, hblur, window_updateActive, queue_updateActive]
        rfl
    · exact .inl hblur
  · simp [hm]

end Session

end WindowKeeper
