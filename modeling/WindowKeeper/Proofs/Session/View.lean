import WindowKeeper.Proofs.Session.Recorded

namespace WindowKeeper

@[ext]
structure View where
  geometry : Rect
  state : WindowState
  visible : Bool
  placed : Bool
  maximizedBeforeHide : Bool
  /-- The events in the queue that tell how the window shows. -/
  untold : List Event

namespace View

def setVisible (b : Bool) (v : View) : View :=
  { v with
    visible := b
    untold := v.untold ++ if v.visible = b then [] else [.visibleChanged b] }

def setState (st : WindowState) (v : View) : View :=
  { v with
    state := st
    untold := v.untold ++ if v.state = st then [] else [.stateChanged st] }

/-- The window is shown, in the given state if it is minimized. -/
def wake (st : WindowState) (v : View) : View :=
  (if v.state = .minimized then v.setState st else v).setVisible true

theorem setVisible_same {v : View} {b : Bool} (h : v.visible = b) : v.setVisible b = v := by
  subst h
  simp [setVisible]

theorem setState_same {v : View} {st : WindowState} (h : v.state = st) : v.setState st = v := by
  subst h
  simp [setState]

end View

def Core.view {σ : Type} (c : Core σ) : View where
  geometry := c.geometry
  state := c.state
  visible := c.visible
  placed := c.placed
  maximizedBeforeHide := c.maximizedBeforeHide
  untold := c.queue.filter Event.ofShowing

namespace Window

theorem ofShowing_setVisible (w : Window) (b : Bool) :
    (w.setVisible b).2.filter Event.ofShowing =
      if w.visible = b then [] else [.visibleChanged b] := by
  rw [setVisible_events]
  split
  · rfl
  · cases b <;> cases w.focused <;> rfl

theorem ofShowing_setState (w : Window) (st : WindowState) :
    (w.setState st).2.filter Event.ofShowing = if w.state = st then [] else [.stateChanged st] := by
  rw [setState_events]
  split <;> rfl

theorem ofShowing_setFocus (w : Window) (b : Bool) :
    (w.setFocus b).2.filter Event.ofShowing = [] := by
  unfold setFocus
  split <;> rfl

theorem ofShowing_setGeometry (w : Window) (r : Rect) :
    (w.setGeometry r).2.filter Event.ofShowing = [] := by
  apply List.filter_eq_nil_iff.mpr
  intro e he
  rcases mem_setGeometry he with rfl | rfl <;> simp [Event.ofShowing]

end Window

namespace Session

variable {σ : Type}

def view (s : Session σ) : View := s.core.view

theorem view_congr {s t : Session σ} (h : t.core = s.core) : t.view = s.view :=
  congrArg Core.view h

theorem view_setVisible (s : Session σ) (b : Bool) :
    (s.onWindow (Window.setVisible b)).view = s.view.setVisible b := by
  rw [view, core_setVisible, Core.view, List.filter_append, Window.ofShowing_setVisible]
  rfl

theorem view_setState (s : Session σ) (st : WindowState) :
    (s.onWindow (Window.setState st)).view = s.view.setState st := by
  rw [view, core_setState, Core.view, List.filter_append, Window.ofShowing_setState]
  rfl

theorem view_setFocus (s : Session σ) (b : Bool) :
    (s.onWindow (Window.setFocus b)).view = s.view := by
  rw [view, core_setFocus, Core.view, List.filter_append, Window.ofShowing_setFocus,
    List.append_nil]
  rfl

theorem view_raise (s : Session σ) : (s.onWindow Window.raise).view = s.view := by
  have htold : s.window.raise.2.filter Event.ofShowing = [] := Window.ofShowing_setFocus _ _
  rw [view, core_raise, Core.view, List.filter_append, htold, List.append_nil]
  rfl

theorem view_setGeometry (s : Session σ) (r : Rect) :
    (s.onWindow (Window.setGeometry r)).view = { s.view with geometry := r } := by
  rw [view, core_setGeometry, Core.view, List.filter_append, Window.ofShowing_setGeometry,
    List.append_nil]
  rfl

theorem view_hide (s : Session σ) : (hide s).view = s.view.setVisible false := by
  rw [← view_setVisible, hide]
  exact view_congr (core_updateActive _)

variable [Store σ]

theorem view_activate (s : Session σ) : (activate s).view = s.view.wake s.wakeState := by
  have hwake := s.wakeState_ne
  have htold : s.showEvents.filter Event.ofShowing =
      (if s.window.state = .minimized then [.stateChanged s.wakeState] else []) ++
        if s.window.visible then [] else [.visibleChanged true] := by
    unfold showEvents
    split <;> cases s.window.visible <;> cases s.window.focused <;> rfl
  rw [view, core_activate, Core.view, List.filter_append, htold]
  unfold View.wake View.setVisible
  by_cases hm : s.window.state = .minimized
  · have hv : s.view.state = .minimized := hm
    rw [if_pos hv]
    cases hvisible : s.window.visible <;>
      simp [View.setState, view, Core.view, core, hm, hvisible, hwake.symm]
  · have hv : s.view.state ≠ .minimized := hm
    rw [if_neg hv]
    cases hvisible : s.window.visible <;> simp [view, Core.view, core, hm, hvisible]

theorem view_savePlacement {s t : Session σ} {st : WindowState} (h : savePlacement s st = .ok t) :
    t.view = s.view := by
  rcases savePlacement_eq_ok h with ⟨-, rfl⟩ | ⟨p, -, rfl⟩ <;> rfl

/-- A minimized window may be hidden for it; apart from that the view stays. -/
theorem view_stateChanged {s t : Session σ} {st : WindowState} (h : stateChanged s st = .ok t) :
    t.view = s.view ∨ st = .minimized ∧ t.view = s.view.setVisible false := by
  obtain ⟨r, hr, hcore⟩ := stateChanged_eq s st
  rw [view_savePlacement (hr.symm.trans h)]
  rcases hcore with hcore | ⟨hst, hides⟩
  · exact .inl (view_congr hcore)
  · exact .inr ⟨hst, (view_congr hides.core).trans (view_hide s)⟩

theorem view_visibleChanged (s : Session σ) (b : Bool) :
    (visibleChanged s b).view =
      if b then
        if s.maximizedBeforeHide then s.view.setState .maximized else s.view
      else { s.view with maximizedBeforeHide := s.record.maximized } := by
  rw [view, core_visibleChanged]
  cases b with
  | false => rfl
  | true =>
    simp only [if_true]
    split
    · exact view_setState s .maximized
    · rfl

/-- Other notices of the window system and the timers do not alter the view. -/
theorem view_handle_notice {s t : Session σ} {e : Event} (hkind : e.isNotice ∨ e.isTimer)
    (he : e.ofShowing = false) (h : handle s e = .ok t) : t.view = s.view := by
  cases e with
  | stateChanged | visibleChanged => cases he
  | moved | resized =>
    cases h
    rfl
  | activeChanged =>
    cases h
    exact view_congr (core_updateActive s)
  | placementTimer g =>
    rw [handle_placementTimer] at h
    split at h
    · have hsaved := view_savePlacement h
      exact hsaved
    · cases h
      rfl
  | settingsTimer g =>
    rw [handle_settingsTimer] at h
    cases h
    split <;> rfl
  | _ => simp [Event.isNotice, Event.isTimer] at hkind

/-- How a turn that does not feign can alter the view. -/
inductive Alters (s : Session σ) (x : Turn) : View → Prop
  | keep : Alters s x s.view
  | move {r : Rect} (moves : x.moves) : Alters s x { s.view with geometry := r }
  | place : Alters s x { s.view with placed := true }
  | setVisible (b : Bool) : Alters s x (s.view.setVisible b)
  | setState {st : WindowState} {single : (Action.setState st).isStep}
      (sets : x = .act (.setState st) single) : Alters s x (s.view.setState st)
  | wake : Alters s x (s.view.wake s.wakeState)

variable {s t : Session σ} {x : Turn}

theorem wakeState_congr (h : t.record = s.record) : t.wakeState = s.wakeState := by
  change (if t.record.maximized then _ else _) = if s.record.maximized then _ else _
  rw [h]

/-- A mode leaves the view alone, and the state in which the window would be shown. -/
theorem view_activate_enterMode [LawfulStore σ] (s : Session σ) (mode : WorkMode) :
    (activate (s.enterMode mode)).view = s.view.wake s.wakeState := by
  have hrecord : (s.enterMode mode).record = s.record := by
    change (Store.settings (Store.requestSave (Store.setWorkMode mode s.store))).placement = _
    simp only [LawfulStore.settings_requestSave, LawfulStore.settings_setWorkMode]
    rfl
  rw [view_activate, wakeState_congr hrecord]
  rfl

omit [Store σ] in
theorem view_advance (hs : s.Timed) (ms : Nat) : (advance s ms).view = s.view := by
  have htold : (s.clock.pass ms).1.filter Event.ofShowing = [] := by
    apply List.filter_eq_nil_iff.mpr
    intro e he
    obtain ⟨a, ha, rfl⟩ := (s.clock.alarms_pass ms).1 e he
    have htimer := hs a ha
    cases hevent : a.event <;> simp_all [Event.isTimer, Event.ofShowing]
  have hqueue : (advance s ms).view =
      { s.view with untold := (s.queue ++ (s.clock.pass ms).1).filter Event.ofShowing } := rfl
  rw [hqueue, List.filter_append, htold, List.append_nil]
  rfl

theorem Alters.of_view {v : View} (h : s.Alters x v) (ht : t.view = v) : s.Alters x t.view :=
  ht ▸ h

theorem Deed.alters [LawfulStore σ] (h : Deed x s t) (hs : s.Timed) (honest : x.feigns = false) :
    s.Alters x t.view := by
  cases h with
  | keep | quit | attach | detach | setMonitors | callTimer | settle | save | settleSave | enter
  | frame | write => exact .keep
  | move moves => exact .of_view (.move moves) (view_setGeometry s _)
  | hide _ hides => exact .of_view (.setVisible false) ((view_congr hides.core).trans (view_hide s))
  | wake => exact .of_view .wake (view_activate s)
  | setVisible => exact .of_view (.setVisible _) (view_setVisible s _)
  | setState sets => exact .of_view (.setState sets) (view_setState s _)
  | setFocus => exact .of_view .keep (view_setFocus s _)
  | raise => exact .of_view .keep (view_raise s)
  | maximize _ feigns | noteHidden _ feigns => exact absurd (honest.symm.trans feigns) (by decide)
  | place => exact .place
  | @send e _ sends =>
    have htold : [e].filter Event.ofShowing = [] := by
      rw [sends] at honest
      exact List.filter_cons_of_neg (ne_true_of_eq_false honest)
    refine .of_view .keep ?_
    change { s.view with untold := (s.queue ++ [e]).filter Event.ofShowing } = s.view
    rw [List.filter_append, htold, List.append_nil]
    rfl
  | advance => exact .of_view .keep (view_advance hs _)
  | enterShown => exact .of_view .wake (view_activate_enterMode s _)

theorem Did.alters [LawfulStore σ] (h : Did x s t) (hs : s.Timed) (honest : x.feigns = false) :
    s.Alters x t.view := by
  obtain ⟨r, hdeed, hcore⟩ := h
  exact .of_view (hdeed.alters hs honest) (view_congr hcore)

/-- Only what moves the window changes where it is. -/
theorem Deed.geometry (h : Deed x s t) (hx : x.moves = false) :
    t.window.geometry = s.window.geometry := by
  change t.core.geometry = s.core.geometry
  cases h with
  | move moves => exact absurd (hx.symm.trans moves) (by decide)
  | hide _ hides => rw [hides.core, core_hide]
  | wake => rw [core_activate]
  | enterShown =>
    rw [core_activate]
    rfl
  | setVisible => rw [core_setVisible]
  | setState | maximize => rw [core_setState]
  | setFocus => rw [core_setFocus]
  | raise => rw [core_raise]
  | _ => rfl

theorem Did.geometry (h : Did x s t) (hx : x.moves = false) :
    t.window.geometry = s.window.geometry := by
  obtain ⟨r, hdeed, hcore⟩ := h
  exact (congrArg Core.geometry hcore).trans (hdeed.geometry hx)

omit [Store σ] in
/-- Taking the next event takes it from what is untold, if it tells anything of that. -/
theorem view_nextEvent {r : Session σ} {deadline : Nat} {e : Event} (hs : s.Timed)
    (hn : s.nextEvent? deadline = some (e, r)) :
    s.view = { r.view with untold := [e].filter Event.ofShowing ++ r.view.untold } := by
  rcases nextEvent_eq_some hn with ⟨es, hq, rfl⟩ | ⟨hq, c, hc, rfl⟩
  · have htold : s.view.untold = ([e] ++ es).filter Event.ofShowing :=
      congrArg (List.filter Event.ofShowing) hq
    rw [List.filter_append] at htold
    exact View.ext rfl rfl rfl rfl rfl htold
  · obtain ⟨⟨a, ha, rfl⟩, -⟩ := Clock.next?_eq_some hc
    have htimer := hs a ha
    have htold : [a.event].filter Event.ofShowing = [] := by
      cases hevent : a.event <;> simp_all [Event.isTimer, Event.ofShowing]
    rw [htold]
    rfl

theorem geometry_turn (hx : x.moves = false) (h : s.turn x = .ok t) :
    t.window.geometry = s.window.geometry := by
  cases x with
  | act a single =>
    obtain ⟨⟨reply, u⟩, hu, rfl⟩ := map_eq_ok.mp h
    exact (does_act single hu).did.geometry hx
  | handle e => exact (does_handle h).did.geometry hx
  | next deadline =>
    rcases turn_next_cases h with ⟨-, rfl⟩ | ⟨e, r, hn, hr⟩
    · rfl
    · obtain ⟨⟨es, c, rfl⟩, -, -⟩ := taken_nextEvent hn
      have hkept := (does_handle hr).did.geometry rfl
      exact hkept
  | pass now =>
    cases h
    rfl
  | shutdown =>
    obtain ⟨⟨result, u⟩, hu, rfl⟩ := map_eq_ok.mp h
    obtain ⟨_, _, _, _, _, rfl⟩ := shutdown_touches hu
    rfl

theorem timed_turn (hs : s.Timed) (h : s.turn x = .ok t) : t.Timed := by
  intro a ha
  rcases (frames_turn h).alarms a ha with hold | htimer
  · exact hs a hold
  · exact htimer

theorem geometry_course {ms : List (Moment σ)} (h : s.Course ms t)
    (hms : ∀ m ∈ ms, m.turn.moves = false) : t.window.geometry = s.window.geometry := by
  induction h with
  | start => rfl
  | turn _ hturn ih =>
    obtain ⟨hx, hms⟩ := List.forall_mem_cons.mp hms
    exact (geometry_turn hx hturn).trans (ih hms)

end Session

end WindowKeeper
