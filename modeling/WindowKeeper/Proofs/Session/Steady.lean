import WindowKeeper.Proofs.Placement.Remembered
import WindowKeeper.Proofs.Session.Alarms
import WindowKeeper.Proofs.Settings.Lawful

namespace WindowKeeper

/-- Whether showing the window is going to maximize it, given that it was so before the event; none
if the event changes the state of the window or is of another kind. -/
def Event.waking? (b : Bool) : Event → Option Bool
  | .activeChanged => some b
  | .visibleChanged false => some false
  | .visibleChanged true => if b then none else some false
  | _ => none

/-- Handling the queued events does not change the state of the window, and unless it is visible now
showing it again will not either. -/
def Calm (visible maximizedBeforeHide : Bool) (queue : List Event) : Prop :=
  ∃ b, queue.foldlM Event.waking? maximizedBeforeHide = some b ∧ (visible ∨ b = false)

theorem Calm.append {v v' m : Bool} {es fs : List Event} (h : Calm v m es)
    (hfs : ∀ b, (v ∨ b = false) → Calm v' b fs) : Calm v' m (es ++ fs) := by
  obtain ⟨b, hb, hv⟩ := h
  obtain ⟨c, hc, hv'⟩ := hfs b hv
  refine ⟨c, ?_, hv'⟩
  rw [List.foldlM_append, hb]
  exact hc

theorem Calm.setVisible_false {w : Window} {b : Bool} (h : w.visible ∨ b = false) :
    Calm false b (w.setVisible false).2 := by
  rw [Window.setVisible_events]
  cases hv : w.visible with
  | false =>
    have hb : b = false := by simpa [hv] using h
    exact ⟨b, rfl, .inr hb⟩
  | true => cases w.focused <;> exact ⟨false, rfl, .inr rfl⟩

theorem Calm.setVisible_true {w : Window} {b : Bool} (h : w.visible ∨ b = false) :
    Calm true b (w.setVisible true).2 := by
  rw [Window.setVisible_events]
  cases hv : w.visible with
  | true => exact ⟨b, rfl, .inl rfl⟩
  | false =>
    have hb : b = false := by simpa [hv] using h
    subst hb
    exact ⟨false, rfl, .inl rfl⟩

theorem Calm.activeChanged {v b : Bool} (h : v ∨ b = false) : Calm v b [.activeChanged] :=
  ⟨b, rfl, h⟩

namespace Core

variable {σ : Type} [Store σ]

def record (c : Core σ) : Placement := (Store.settings c.store).placement

/-- A placed window in the normal state, with nothing waiting that could change its body or its
state. -/
structure Holding (body : Rect) (ms : List Monitor) (config : Config) (c : Core σ) : Prop where
  geometry : c.geometry = body
  state : c.state = .normal
  monitors : c.monitors = ms
  config : c.config = config
  column : c.rightColumn = none
  placed : c.placed
  unmaximized : c.record.maximized = false
  timed : ∀ a ∈ c.clock.alarms, a.event.isTimer
  calm : Calm c.visible c.maximizedBeforeHide c.queue

/-- From one core to a later one, between which the record was not changed. -/
structure Steady (body : Rect) (ms : List Monitor) (config : Config) (c d : Core σ) : Prop where
  holding : d.Holding body ms config
  placementTimer : d.placementTimer = c.placementTimer
  record : d.record = c.record

variable {body : Rect} {ms : List Monitor} {config : Config} {c d e : Core σ}

theorem Steady.refl (h : c.Holding body ms config) : Steady body ms config c c := ⟨h, rfl, rfl⟩

theorem Steady.trans (h : Steady body ms config c d) (h' : Steady body ms config d e) :
    Steady body ms config c e :=
  ⟨h'.holding, h'.placementTimer.trans h.placementTimer, h'.record.trans h.record⟩

end Core

namespace Session

open WindowKeeper.Core (Steady)

variable {σ : Type} [Store σ] {body : Rect} {ms : List Monitor} {config : Config}

theorem steady_hide {s t : Session σ} (hs : s.core.Holding body ms config) (h : s.Hides t) :
    Steady body ms config s.core t.core := by
  rw [h.core, core_hide]
  exact ⟨{ hs with calm := hs.calm.append fun _ => Calm.setVisible_false }, rfl, rfl⟩

theorem steady_activate {s : Session σ} (hs : s.core.Holding body ms config) :
    Steady body ms config s.core (activate s).core := by
  have hstate : s.window.state ≠ .minimized := by
    have hnormal : s.window.state = .normal := hs.state
    simp [hnormal]
  have hshow : s.showEvents = (s.window.setVisible true).2 ++ s.window.raise.2 := by
    rw [showEvents, if_neg hstate, Window.setVisible_events, Window.raise_events]
    cases s.window.visible <;> rfl
  rw [core_activate, if_neg hstate, hshow, ← List.append_assoc]
  refine ⟨{ hs with calm := (hs.calm.append fun _ => Calm.setVisible_true).append ?_ }, rfl, rfl⟩
  intro b hb
  rw [Window.raise_events]
  split
  · exact ⟨b, rfl, hb⟩
  · exact Calm.activeChanged hb

theorem holding_saveLater {s : Session σ} {st : σ} (hs : s.core.Holding body ms config)
    (hst : (Store.settings (Store.requestSave st)).placement.maximized = false) :
    (saveLater { s with store := st }).core.Holding body ms config := by
  have htimed : s.Timed := hs.timed
  have hlater := (htimed.of_clock (t := { s with store := st }) rfl).saveLater
  exact { hs with unmaximized := hst, timed := hlater }

theorem steady_saveLater {s : Session σ} {st : σ} (hs : s.core.Holding body ms config)
    (hst : (Store.settings (Store.requestSave st)).placement = s.core.record) :
    Steady body ms config s.core (saveLater { s with store := st }).core :=
  ⟨holding_saveLater hs ((congrArg Placement.maximized hst).trans hs.unmaximized), rfl, hst⟩

/-- An event from the queue moves nothing. -/
theorem steady_queued {s t : Session σ} {e : Event} {es : List Event} (hq : s.queue = e :: es)
    (hs : s.core.Holding body ms config) (h : handle { s with queue := es } e = .ok t) :
    Steady body ms config s.core t.core := by
  obtain ⟨b, hb, hv⟩ := hs.calm
  have hqueue : List.foldlM Event.waking? s.maximizedBeforeHide (e :: es) = some b := hq ▸ hb
  rw [List.foldlM_cons] at hqueue
  have hpop (f : Bool) (hf : es.foldlM Event.waking? f = some b) :
      Steady body ms config s.core { s.core with maximizedBeforeHide := f, queue := es } :=
    ⟨{ hs with calm := ⟨b, hf, hv⟩ }, rfl, rfl⟩
  cases e with
  | activeChanged =>
    cases h
    rw [core_updateActive]
    exact hpop s.maximizedBeforeHide hqueue
  | visibleChanged v =>
    cases h
    rw [core_visibleChanged]
    cases v with
    | false =>
      have hrecord : s.record.maximized = false := hs.unmaximized
      rw [if_neg (by decide)]
      exact hpop s.record.maximized (hrecord ▸ hqueue)
    | true =>
      by_cases hm : s.maximizedBeforeHide
      · rw [Event.waking?, if_pos hm] at hqueue
        cases hqueue
      · rw [Event.waking?, if_neg hm] at hqueue
        have hf : s.maximizedBeforeHide = false := by simpa using hm
        rw [if_pos rfl, if_neg hm]
        exact hpop s.maximizedBeforeHide (hf ▸ hqueue)
  | _ => cases hqueue

/-- The record in force after saving the window as it stands. -/
def savedRecord (s : Session σ) : Except Overflow Placement :=
  (s.snapshot s.window.state).inForce s.record s.window.monitors s.config.scale s.config.leastSize

variable [LawfulStore σ]

theorem record_storeRecord (s : Session σ) (p : Placement) : (s.storeRecord p).record = p := by
  change (Store.settings (Store.requestSave (Store.setPlacement p s.store))).placement = p
  simp

theorem inForce_savePlacement {s t : Session σ} {state : WindowState}
    (h : savePlacement s state = .ok t) :
    (s.snapshot state).inForce s.record s.window.monitors s.config.scale s.config.leastSize =
      .ok t.record := by
  rw [Snapshot.inForce, map_eq_ok]
  rcases savePlacement_eq_ok h with ⟨hnone, rfl⟩ | ⟨p, hp, rfl⟩
  · exact ⟨none, hnone, rfl⟩
  · exact ⟨some p, hp, (record_storeRecord s p).symm⟩

theorem record_savePlacement {s t : Session σ} (h : savePlacement s s.window.state = .ok t) :
    s.savedRecord = .ok t.record := inForce_savePlacement h

/-- Nor does an event that a step of a script hands to the session. -/
theorem steady_given {s t : Session σ} {step : Script.Step} {e : Event}
    (he : step.event? = some e) (hs : s.core.Holding body ms config) (h : handle s e = .ok t) :
    Steady body ms config s.core t.core := by
  cases step with
  | placed =>
    cases he
    cases h
    exact ⟨{ hs with placed := rfl }, rfl, rfl⟩
  | tray a =>
    cases he
    cases h
    rcases core_trayActivated s a with hcore | hides | hcore
    · rw [hcore]
      exact .refl hs
    · exact steady_hide hs hides
    · rw [hcore]
      exact steady_activate hs
  | unread n =>
    cases he
    cases h
    rw [core_updateTitle]
    exact .refl hs
  | workMode mode =>
    cases he
    cases h
    have hst : (Store.settings (Store.requestSave (Store.setWorkMode mode s.store))).placement =
        s.core.record := by
      rw [LawfulStore.settings_requestSave, LawfulStore.settings_setWorkMode]
      rfl
    obtain ⟨hholding, htimer, hrecord⟩ := steady_saveLater hs hst
    have hmode : Steady body ms config s.core (s.enterMode mode).core :=
      ⟨{ hholding with }, htimer, hrecord⟩
    rcases core_workModeChanged s mode with ⟨-, hcore⟩ | ⟨-, hcore⟩
    · rw [hcore]
      exact hmode
    · rw [hcore]
      exact hmode.trans (steady_activate hmode.holding)
  | nativeFrame native =>
    cases he
    have hst : (Store.settings (Store.requestSave (Store.setNativeFrame native s.store))).placement
        = s.core.record := by
      rw [LawfulStore.settings_requestSave, LawfulStore.settings_setNativeFrame]
      rfl
    rw [core_nativeFrameChanged h]
    exact steady_saveLater hs hst
  | close =>
    cases he
    cases h
    rcases core_close s with hides | hcore
    · exact steady_hide hs hides
    · rw [hcore]
      exact ⟨{ hs with }, rfl, rfl⟩
  | _ => cases he

theorem steady_alarm {s t : Session σ} {e : Event} (he : e.isTimer) (hsettles : s.settles e = false)
    (hs : s.core.Holding body ms config) (h : handle s e = .ok t) :
    Steady body ms config s.core t.core := by
  cases e with
  | placementTimer g =>
    have hawaits : s.placementTimer.awaits g = false := hsettles
    rw [handle_placementTimer, hawaits] at h
    cases h
    exact .refl hs
  | settingsTimer g =>
    rw [handle_settingsTimer] at h
    cases h
    split
    · have hrecord : (flush s.settleSettings).2.core.record = s.core.record :=
        congrArg Settings.placement (LawfulStore.settings_flush s.store s.files)
      have hunmaximized : (flush s.settleSettings).2.core.record.maximized = false :=
        (congrArg Placement.maximized hrecord).trans hs.unmaximized
      exact ⟨{ hs with unmaximized := hunmaximized }, rfl, hrecord⟩
    · exact .refl hs
  | _ => cases he

theorem holding_savePlacement {s t : Session σ} {state : WindowState} (hstate : state = .normal)
    (hs : s.core.Holding body ms config) (h : savePlacement s state = .ok t) :
    t.core.Holding body ms config ∧ t.placementTimer = s.placementTimer := by
  rcases savePlacement_eq_ok h with ⟨-, rfl⟩ | ⟨p, hp, rfl⟩
  · exact ⟨hs, rfl⟩
  · have hforce : (s.snapshot state).inForce s.record s.window.monitors s.config.scale
        s.config.leastSize = .ok p := map_eq_ok.mpr ⟨some p, hp, rfl⟩
    have hp' : p.maximized = false :=
      Snapshot.maximized_inForce (by simp [snapshot, hstate]) hs.unmaximized hforce
    have hrecord := congrArg Placement.maximized (record_storeRecord s p)
    exact ⟨holding_saveLater hs (hrecord.trans hp'), rfl⟩

/-- The event that settles the placement timer saves the window as it stands. -/
theorem saved_of_settles {s t : Session σ} {e : Event} (hsettles : s.settles e)
    (hs : s.core.Holding body ms config) (h : handle s e = .ok t) :
    t.core.Holding body ms config ∧ t.placementTimer.pending = false ∧
      s.savedRecord = .ok t.record := by
  cases e with
  | placementTimer g =>
    have hawaits : s.placementTimer.awaits g := hsettles
    rw [handle_placementTimer, if_pos hawaits] at h
    have hsettled : s.settlePlacement.core.Holding body ms config := { hs with }
    obtain ⟨hholding, htimer⟩ := holding_savePlacement hs.state hsettled h
    exact ⟨hholding, congrArg Timer.pending htimer,
      record_savePlacement (s := s.settlePlacement) h⟩
  | _ => cases hsettles

end Session

end WindowKeeper
