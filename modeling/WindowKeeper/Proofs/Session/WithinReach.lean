import WindowKeeper.Proofs.Session.Effects

namespace WindowKeeper

/-- Whether someone other than the session hides the window, or takes away the tray icon of one that
is hidden. -/
def Moment.conceals {σ : Type} (m : Moment σ) : Bool :=
  match m.turn with
  | .act (.setVisible b) _ => !b
  | .act .detachTray _ => !m.session.window.visible
  | _ => false

namespace Session

variable {σ : Type} {s t u : Session σ}

/-- The user can get at the window, or at the tray icon. -/
def WithinReach (s : Session σ) : Prop := s.window.visible ∨ s.trayAttached

/-- On the way from `s` to `t` the user keeps in touch with the session, and one that quits is not
called back or hidden. -/
structure Accessible (s t : Session σ) : Prop where
  reach : s.WithinReach → t.WithinReach
  quitting : s.quitting → t.quitting
  visible : s.quitting → s.window.visible → t.window.visible

theorem Accessible.refl (s : Session σ) : s.Accessible s := ⟨id, id, fun _ => id⟩

theorem Accessible.trans (h : s.Accessible t) (h' : t.Accessible u) : s.Accessible u :=
  ⟨fun hs => h'.reach (h.reach hs), fun hs => h'.quitting (h.quitting hs),
    fun hs hv => h'.visible (h.quitting hs) (h.visible hs hv)⟩

/-- A window that is visible is within reach, whatever happened before. -/
theorem accessible_of_visible (hvisible : t.window.visible) (hquitting : s.quitting → t.quitting) :
    s.Accessible t :=
  ⟨fun _ => .inl hvisible, hquitting, fun _ _ => hvisible⟩

/-- What leaves the window as visible as it is, and a tray icon where it is. -/
theorem accessible_of_same (hvisible : t.window.visible = s.window.visible)
    (hattached : s.trayAttached → t.trayAttached) (hquitting : s.quitting → t.quitting) :
    s.Accessible t where
  reach hs := by
    rcases hs with hs | hs
    · exact .inl (hvisible ▸ hs)
    · exact .inr (hattached hs)
  quitting := hquitting
  visible _ hs := hvisible ▸ hs

theorem accessible_of_core {c : Core σ} (h : t.core = c) (hvisible : c.visible = s.core.visible)
    (hattached : c.trayAttached = s.core.trayAttached) (hquitting : c.quitting = s.core.quitting) :
    s.Accessible t := by
  have hv : t.window.visible = s.window.visible := (congrArg Core.visible h).trans hvisible
  have ha : t.trayAttached = s.trayAttached := (congrArg Core.trayAttached h).trans hattached
  have hq : t.quitting = s.quitting := (congrArg Core.quitting h).trans hquitting
  exact accessible_of_same hv (fun hs => ha.trans hs) fun hs => hq.trans hs

theorem Hides.attached (h : s.Hides t) (hmac : s.config.hidesOnClose = false) :
    t.trayAttached := by
  have hback : s.trayAttached := h.wayBack.resolve_right (by simp [hmac])
  exact (congrArg Core.trayAttached (h.core.trans (core_hide s))).trans hback

theorem Hides.accessible (h : s.Hides t) (hmac : s.config.hidesOnClose = false) :
    s.Accessible t := by
  have hnever : ¬ s.quitting := by simp [h.running]
  exact ⟨fun _ => .inr (h.attached hmac), fun hs => absurd hs hnever, fun hs => absurd hs hnever⟩

variable [Store σ] {r : Session σ} {x : Turn}

theorem accessible_activate (hquitting : r.quitting = s.quitting) :
    s.Accessible (activate r) := by
  have hcore := core_activate r
  have hvisible : (activate r).window.visible = true := congrArg Core.visible hcore
  have hkept : (activate r).quitting = r.quitting := congrArg Core.quitting hcore
  exact accessible_of_visible hvisible fun hs => (hkept.trans hquitting).trans hs

/-- The icon goes away only when the window can be seen, or is shown in its place. -/
theorem accessible_enterMode {mode : WorkMode} (hseen : mode = .windowOnly → s.window.visible) :
    s.Accessible (s.enterMode mode) := by
  by_cases hm : mode = .windowOnly
  · exact accessible_of_visible (t := s.enterMode mode) (hseen hm) id
  · exact accessible_of_same rfl (fun hs => (if_neg hm).trans hs) id

theorem Deed.accessible (h : Deed x s r) (hmac : s.config.hidesOnClose = false)
    (hreveals : (Moment.mk s x).conceals = false) : s.Accessible r := by
  cases h with
  | keep => exact .refl s
  | hide _ hides => exact hides.accessible hmac
  | wake => exact accessible_activate rfl
  | enterShown => exact accessible_activate rfl
  | @setVisible b _ sets =>
    have hshown : b = true := by simpa [Moment.conceals, sets] using hreveals
    have hvisible := congrArg Core.visible (core_setVisible s b)
    exact accessible_of_visible (hvisible.trans hshown) id
  | setState | maximize => exact accessible_of_core (core_setState s _) rfl rfl rfl
  | setFocus => exact accessible_of_core (core_setFocus s _) rfl rfl rfl
  | raise => exact accessible_of_core (core_raise s) rfl rfl rfl
  | quit => exact accessible_of_same rfl id fun _ => rfl
  | attach => exact accessible_of_same rfl (fun _ => rfl) id
  | detach detaches =>
    have hvisible : s.window.visible := by simpa [Moment.conceals, detaches] using hreveals
    exact accessible_of_visible hvisible id
  | enter _ seen => exact accessible_enterMode seen
  | _ => exact accessible_of_same rfl id id

theorem Did.accessible (h : Did x s t) (hmac : s.config.hidesOnClose = false)
    (hreveals : (Moment.mk s x).conceals = false) : s.Accessible t := by
  obtain ⟨r, hdeed, hcore⟩ := h
  exact (hdeed.accessible hmac hreveals).trans (accessible_of_core hcore rfl rfl rfl)

theorem accessible_turn {x : Turn} (hmac : s.config.hidesOnClose = false)
    (hreveals : (Moment.mk s x).conceals = false) (h : s.turn x = .ok t) : s.Accessible t := by
  cases x with
  | act a single =>
    obtain ⟨⟨reply, v⟩, hv, rfl⟩ := map_eq_ok.mp h
    exact (does_act single hv).did.accessible hmac hreveals
  | handle e => exact (does_handle h).did.accessible hmac hreveals
  | next deadline =>
    rcases turn_next_cases h with ⟨-, rfl⟩ | ⟨e, r, hn, hr⟩
    · exact .refl _
    · obtain ⟨⟨es, c, rfl⟩, -, -⟩ := taken_nextEvent hn
      have htaken : s.Accessible { s with queue := es, clock := c } := accessible_of_same rfl id id
      exact htaken.trans ((does_handle hr).did.accessible hmac rfl)
  | pass now =>
    cases h
    exact accessible_of_same rfl id id
  | shutdown =>
    obtain ⟨⟨result, v⟩, hv, rfl⟩ := map_eq_ok.mp h
    obtain ⟨_, _, _, _, _, rfl⟩ := shutdown_touches hv
    exact accessible_of_same rfl id id

theorem accessible_course {ms : List (Moment σ)} (hmac : s.config.hidesOnClose = false)
    (h : s.Course ms t) (hreveals : ∀ m ∈ ms, m.conceals = false) : s.Accessible t := by
  induction h with
  | start => exact .refl s
  | @turn ms v w x hcourse hturn ih =>
    have hbefore := ih fun m hm => hreveals m (List.mem_cons_of_mem _ hm)
    have hconfig : v.config.hidesOnClose = false := config_course hcourse ▸ hmac
    exact hbefore.trans (accessible_turn hconfig (hreveals _ List.mem_cons_self) hturn)

/-- Once a session is set up and its window shown, the window can be seen or there is a tray icon.
Closing the window either hides it where there is an icon, and shows the list, or quits and leaves
the window as it is. A session that quits never goes back to that, nor hides its window. -/
theorem course_withinReach {r : Session σ} {ms : List (Moment σ)}
    (hmac : r.config.hidesOnClose = false) (hinit : r.init = .ok s) (h : (activate s).Course ms t)
    (hreveals : ∀ m ∈ ms, m.conceals = false) :
    (t.window.visible ∨ t.trayAttached) ∧
    (∀ b u, close t = (b, u) →
      (b = true ∧ u.window.visible = false ∧ u.trayAttached ∧ u.quitting = false ∧
        u.requests.listShown = t.requests.listShown + 1) ∨
      (b = false ∧ u.quitting ∧ u.window = t.window)) ∧
    (t.quitting → ∀ ns u, t.Course ns u → (∀ m ∈ ns, m.conceals = false) →
      u.quitting ∧ (t.window.visible → u.window.visible)) := by
  have hconfig : (activate s).config = r.config := by
    obtain ⟨g, frame, -, hcore⟩ := core_init hinit
    have hsame : s.config = r.config := congrArg Core.config hcore
    exact (congrArg Core.config (core_activate s)).trans hsame
  have hmac' : (activate s).config.hidesOnClose = false := hconfig ▸ hmac
  have hmac'' : t.config.hidesOnClose = false := config_course h ▸ hmac'
  refine ⟨?_, ?_, ?_⟩
  · apply (accessible_course hmac' h hreveals).reach
    exact .inl (congrArg Core.visible (core_activate s))
  · intro b u hclose
    rcases close_cases t with hquits | ⟨v, hhidden, hides, hlist⟩
    · rw [hquits] at hclose
      cases hclose
      exact .inr ⟨rfl, rfl, rfl⟩
    · rw [hhidden] at hclose
      cases hclose
      have hcore := hides.core.trans (core_hide t)
      have hrunning : u.quitting = t.quitting := congrArg Core.quitting hcore
      exact .inl ⟨rfl, congrArg Core.visible hcore, hides.attached hmac'',
        hrunning.trans hides.running, hlist⟩
  · intro hquitting ns u hcourse hns
    have haccess := accessible_course hmac'' hcourse hns
    exact ⟨haccess.quitting hquitting, haccess.visible hquitting⟩

/-- A window that is minimized in a tray-only mode goes to the tray; closing it there shows the
list. Shown again, it stays when the session quits, however it is closed or minimized then. -/
theorem course_withinReach_stowed :
    let m : Monitor := ⟨"DP-1", ⟨0, 0, 1920, 1080⟩, ⟨0, 0, 1920, 1080⟩, true⟩
    let r : Session MemoryStore :=
      attachTray (start (.onMonitors [m] .none) (.ofSettings .initial) .empty .initial)
    ∃ s p q v, r.init = .ok s ∧
      (activate s).follow [.handle (.workModeChanged .trayOnly), .act (.setState .minimized) rfl,
        .handle (.stateChanged .minimized)] = .ok p ∧ p.2.window.visible = false ∧
      p.2.trayAttached ∧ (close p.2).2.quitting = false ∧
      (close p.2).2.requests.listShown = p.2.requests.listShown + 1 ∧
      p.2.follow [.handle (.trayActivated .doubleClick), .handle .quit] = .ok q ∧
      q.2.follow [.handle .closeRequested, .handle (.stateChanged .minimized)] = .ok v ∧
      v.2.quitting ∧ v.2.window.visible := by
  intro m r
  obtain ⟨s, hinit, ⟨ms, t⟩, hfollow, hms, hidden, hclose, ⟨ns, u⟩, hshown, hns, hquits,
      hvisible, ⟨os, v⟩, hlast, hos⟩ :
      ∃ s, r.init = .ok s ∧
        ∃ p, (activate s).follow [.handle (.workModeChanged .trayOnly),
            .act (.setState .minimized) rfl, .handle (.stateChanged .minimized)] = .ok p ∧
          (∀ m ∈ p.1, m.conceals = false) ∧ p.2.window.visible = false ∧ (close p.2).1 = true ∧
          ∃ q, p.2.follow [.handle (.trayActivated .doubleClick), .handle .quit] = .ok q ∧
            (∀ m ∈ q.1, m.conceals = false) ∧ q.2.quitting ∧ q.2.window.visible ∧
            ∃ v, q.2.follow [.handle .closeRequested, .handle (.stateChanged .minimized)] = .ok v ∧
              (∀ m ∈ v.1, m.conceals = false) := by
    decide +kernel
  have hcourse := course_follow hfollow
  obtain ⟨hreach, hclosed, -⟩ := course_withinReach (r := r) rfl hinit hcourse hms
  have hattached : t.trayAttached := hreach.resolve_left fun h => by cases h.symm.trans hidden
  obtain ⟨-, -, -, hstays, hlist⟩ := (hclosed true (close t).2 (Prod.ext hclose rfl)).resolve_right
    fun h => by cases h.1
  have hlater := hcourse.trans (course_follow hshown)
  obtain ⟨-, -, hquitting⟩ := course_withinReach (r := r) rfl hinit hlater fun m hm =>
    (List.mem_append.mp hm).elim (hns m) (hms m)
  obtain ⟨hv, hvisible'⟩ := hquitting hquits os v (course_follow hlast) hos
  exact ⟨s, _, _, _, hinit, hfollow, hidden, hattached, hstays, hlist, hshown, hlast, hv,
    hvisible' hvisible⟩

end Session

end WindowKeeper
