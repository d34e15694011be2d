import WindowKeeper.Proofs.Session.Aware
import WindowKeeper.Proofs.Session.Drained
import WindowKeeper.Proofs.Session.Titled

namespace WindowKeeper.Session

variable {σ : Type} {s t u : Session σ}

/-- An activity that is known is not told again. -/
theorem updateActive_of_known (h : s.active = s.window.isActive) : updateActive s = s := if_pos h

variable [Store σ]

/-- The tray icon is triggered, and all that this causes is handled. -/
def clickTray (s : Session σ) : Outcome σ (Session σ) := do
  processQueue (← handle s (.trayActivated .trigger))

/-- Two queued events that cause nothing are handled one after the other. -/
theorem processQueue_pair {e f : Event} (hqueue : s.queue = [e, f])
    (he : handle { s with queue := [f] } e = .ok t) (hleft : t.queue = [f])
    (hf : handle { t with queue := [] } f = .ok u) (hdone : u.queue = []) :
    processQueue s = .ok u := by
  have hend (n : Nat) : handleQueued n u = .ok u := by
    cases n with
    | zero => rfl
    | succ n => rw [handleQueued, hdone]
  rw [processQueue, hqueue]
  change handleQueued 10 s = .ok u
  rw [handleQueued_cons hqueue, he]
  change handleQueued 9 t = .ok u
  rw [handleQueued_cons hleft, hf]
  exact hend 8

/-- The session after its window went to the tray. -/
def tuckedAway (s : Session σ) : Session σ :=
  { s with
    window := { s.window with visible := false, focused := false }
    requests := { s.requests with
      blurs := s.requests.blurs + 1
      activity := s.requests.activity ++ [false] }
    tray := { s.tray with tooltipsShown := s.tray.tooltipsShown + 1 }
    active := false
    maximizedBeforeHide := s.record.maximized }

omit [Store σ] in
/-- The session after its window was shown from the tray. -/
def broughtBack (s : Session σ) : Session σ :=
  { s with
    window := { s.window with visible := true, focused := true, raises := s.window.raises + 1 }
    requests := { s.requests with
      focuses := s.requests.focuses + 1
      windowShown := s.requests.windowShown + 1
      activity := s.requests.activity ++ [true] }
    active := true }

/-- Before the queue is processed it is not yet remembered whether the window is to be maximized. -/
theorem trigger_hides (hrunning : s.quitting = false) (hattached : s.trayAttached)
    (hvisible : s.window.visible) (hfocused : s.window.focused) (hactive : s.active) :
    trayActivated s .trigger =
      { s.tuckedAway with
        maximizedBeforeHide := s.maximizedBeforeHide
        queue := s.queue ++ [.activeChanged, .visibleChanged false] } := by
  have hhide : hide s =
      { s.tuckedAway with
        tray := s.tray
        maximizedBeforeHide := s.maximizedBeforeHide
        queue := s.queue ++ [.activeChanged, .visibleChanged false] } := by
    simp [hide, onWindow, Window.setVisible, Window.setFocus, blur, updateActive, Window.isActive,
      tuckedAway, hvisible, hfocused, hactive]
  simp only [trayActivated, hideToTray, hhide, hrunning, hattached, hvisible, hactive]
  rfl

theorem clickTray_hides (hidle : s.queue = []) (hrunning : s.quitting = false)
    (hattached : s.trayAttached) (hvisible : s.window.visible) (hfocused : s.window.focused)
    (hactive : s.active) : s.clickTray = .ok s.tuckedAway := by
  rw [clickTray, handle, trigger_hides hrunning hattached hvisible hfocused hactive, hidle]
  have hnoted : updateActive s.tuckedAway = s.tuckedAway := updateActive_of_known rfl
  have hsame : { s.tuckedAway with queue := [] } = s.tuckedAway := hidle ▸ rfl
  refine processQueue_pair rfl (congrArg Except.ok (updateActive_of_known rfl)) rfl ?_ hidle
  exact congrArg Except.ok ((congrArg updateActive hsame).trans hnoted)

/-- A window that is not minimized is shown in the state that it has. -/
theorem trigger_shows (htitled : s.caption.Right) (hstate : s.window.state ≠ .minimized)
    (hhidden : s.window.visible = false) (hunfocused : s.window.focused = false)
    (hinactive : s.active = false) :
    trayActivated s .trigger =
      { s.broughtBack with queue := s.queue ++ [.visibleChanged true, .activeChanged] } := by
  have hactivate : activate s =
      { s.broughtBack with queue := s.queue ++ [.visibleChanged true, .activeChanged] } := by
    simp [activate, onWindow, Window.setVisible, Window.raise, Window.setFocus, focus, noteShown,
      updateActive, Window.isActive, broughtBack, hstate, hhidden, hunfocused, hinactive]
  have htitle : (activate s).caption.Right := caption_of_attire (attire_activate s) ▸ htitled
  rw [← hactivate]
  simp only [trayActivated, hhidden, Bool.false_and, Bool.false_eq_true, if_false]
  exact updateTitle_of_right htitle

/-- Showing a window does not maximize it if it is as it was before it was hidden. -/
theorem visibleChanged_shown (hkept : s.maximizedBeforeHide → s.window.state = .maximized)
    (hknown : s.active = s.window.isActive) : visibleChanged s true = s := by
  have hsame :
      (if s.maximizedBeforeHide then s.onWindow (Window.setState .maximized) else s) = s := by
    split
    · rename_i hmaximized
      simp [onWindow, Window.setState, hkept hmaximized]
    · rfl
  rw [visibleChanged, if_pos rfl, hsame, updateActive_of_known hknown]

theorem clickTray_shows (hidle : s.queue = []) (htitled : s.caption.Right)
    (hstate : s.window.state ≠ .minimized) (hhidden : s.window.visible = false)
    (hunfocused : s.window.focused = false) (hinactive : s.active = false)
    (hkept : s.maximizedBeforeHide → s.window.state = .maximized) :
    s.clickTray = .ok s.broughtBack := by
  rw [clickTray, handle, trigger_shows htitled hstate hhidden hunfocused hinactive, hidle]
  have hknown : s.broughtBack.active = s.broughtBack.window.isActive := by
    simp [broughtBack, Window.isActive, hstate]
  have hsame : { s.broughtBack with queue := [] } = s.broughtBack := hidle ▸ rfl
  refine processQueue_pair rfl (congrArg Except.ok (visibleChanged_shown hkept hknown)) rfl ?_ hidle
  exact congrArg Except.ok ((congrArg updateActive hsame).trans (updateActive_of_known hknown))

/-- Hidden and shown again, an active window is what it was. -/
theorem broughtBack_tuckedAway (hvisible : s.window.visible) (hfocused : s.window.focused)
    (hactive : s.active) :
    s.tuckedAway.broughtBack = { s with
      window := { s.window with raises := s.window.raises + 1 }
      requests := { s.requests with
        focuses := s.requests.focuses + 1
        blurs := s.requests.blurs + 1
        windowShown := s.requests.windowShown + 1
        activity := s.requests.activity ++ [false, true] }
      tray := { s.tray with tooltipsShown := s.tray.tooltipsShown + 1 }
      maximizedBeforeHide := s.record.maximized } := by
  simp [tuckedAway, broughtBack, hvisible, hfocused, hactive]

/-- After the window has been opened, and whenever nothing is queued, a click on the tray icon hides
an active window and another one shows it as it was. Of the whole session, only what counts the
hiding and the showing has changed, and what is remembered of the record for the showing. -/
theorem course_tuckedAway {monitors : List Monitor} {frame : Margins} {store : σ} {files : Tree}
    {config : Config} {ms ns : List (Moment σ)} {q r : Session σ}
    (hbefore : (start (.onMonitors monitors frame) store files config).Course ms q)
    (hinit : q.init = .ok r) (hafter : r.Course ns s) (hidle : s.queue = [])
    (hrunning : s.quitting = false) (hattached : s.trayAttached) (hvisible : s.window.visible)
    (hactive : s.active) (hrecord : s.record.maximized → s.window.state = .maximized) :
    ∃ t, s.clickTray = .ok t ∧ t.window.visible = false ∧
      t.clickTray = .ok { s with
        window := { s.window with raises := s.window.raises + 1 }
        requests := { s.requests with
          focuses := s.requests.focuses + 1
          blurs := s.requests.blurs + 1
          windowShown := s.requests.windowShown + 1
          activity := s.requests.activity ++ [false, true] }
        tray := { s.tray with tooltipsShown := s.tray.tooltipsShown + 1 }
        maximizedBeforeHide := s.record.maximized } := by
  have hheeds := ((heeds_course hbefore).trans (heeds_init hinit)).trans (heeds_course hafter)
  -- with nothing queued, the session knows that the window has the focus
  have hknown : s.active = s.window.isActive := by
    refine (hheeds.aware (.inl rfl)).resolve_right ?_
    simp [hidle]
  obtain ⟨⟨hfocused, -⟩, hstate⟩ :
      (s.window.focused ∧ s.window.visible) ∧ s.window.state ≠ .minimized := by
    simpa [Window.isActive] using hknown.symm.trans hactive
  have htitled : s.caption.Right := course_titled hinit hafter
  have hhides := clickTray_hides hidle hrunning hattached hvisible hfocused hactive
  have hshows : s.tuckedAway.clickTray = .ok s.tuckedAway.broughtBack :=
    clickTray_shows hidle htitled hstate rfl rfl rfl hrecord
  rw [broughtBack_tuckedAway hvisible hfocused hactive] at hshows
  exact ⟨_, hhides, rfl, hshows⟩

/-- A maximized window with something unread is hidden and shown again. -/
theorem course_tuckedAway_maximized :
    let m : Monitor := ⟨"DP-1", ⟨0, 0, 1920, 1080⟩, ⟨0, 0, 1920, 1080⟩, true⟩
    let q : Session MemoryStore :=
      start (.onMonitors [m] .none) (.ofSettings .initial) .empty .initial
    ∃ r p t u, q.init = .ok r ∧
      r.follow ([.act .attachTray rfl, .act .markPlaced rfl, .handle (.unreadChanged 3),
          .act .activate rfl, .act (.savePlacement .normal) rfl,
          .act (.setState .maximized) rfl] ++
        List.replicate 5 (.next 0)) = .ok p ∧
      p.2.record.maximized ∧ p.2.window.title = "Casement (3)" ∧ p.2.clickTray = .ok t ∧
      t.window.visible = false ∧ t.clickTray = .ok u ∧
      u.window = { p.2.window with raises := p.2.window.raises + 1 } := by
  intro m q
  obtain ⟨r, hinit, ⟨ns, s⟩, hfollow, ⟨hidle, hrunning, hattached, hvisible, hactive⟩, hrecord,
      hmaximized, htitle⟩ :
      ∃ r, q.init = .ok r ∧
        ∃ p, r.follow ([.act .attachTray rfl, .act .markPlaced rfl, .handle (.unreadChanged 3),
            .act .activate rfl, .act (.savePlacement .normal) rfl,
            .act (.setState .maximized) rfl] ++
          List.replicate 5 (.next 0)) = .ok p ∧
        (p.2.queue = [] ∧ p.2.quitting = false ∧ p.2.trayAttached ∧ p.2.window.visible ∧
          p.2.active) ∧ p.2.record.maximized ∧ p.2.window.state = .maximized ∧
          p.2.window.title = "Casement (3)" := by
    decide +kernel
  obtain ⟨t, hhides, hhidden, hshows⟩ := course_tuckedAway .start hinit (course_follow hfollow)
    hidle hrunning hattached hvisible hactive fun _ => hmaximized
  exact ⟨r, _, t, _, hinit, hfollow, hrecord, htitle, hhides, hhidden, hshows, rfl⟩

end WindowKeeper.Session
