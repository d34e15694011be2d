import WindowKeeper.Proofs.Session.Alarms
import WindowKeeper.Proofs.Session.Calls

namespace WindowKeeper

/-- The notifications of the window system. -/
def Event.isNotice : Event → Bool
  | .moved => true
  | .resized => true
  | .stateChanged _ => true
  | .visibleChanged _ => true
  | .activeChanged => true
  | _ => false

namespace Moment

variable {σ : Type}

variable [Store σ]

/-- How a moment can change the store and the files. -/
inductive Stores (m : Moment σ) (t : Session σ) : Prop
  | keep (store : t.store = m.session.store) (files : t.files = m.session.files)
  | flush {r : Except Settings.SaveError Unit}
      (flushed : Store.flush m.session.store m.session.files = (r, t.store, t.files))
  | mode {mode : WorkMode} (event : m.event? = some (.workModeChanged mode))
      (store : t.store = Store.requestSave (Store.setWorkMode mode m.session.store))
      (files : t.files = m.session.files)
  | frame {native : Bool} (event : m.event? = some (.nativeFrameChanged native))
      (store : t.store = Store.requestSave (Store.setNativeFrame native m.session.store))
      (files : t.files = m.session.files)
  | save {p : Placement} (worth : m.session.newRecord m.savedState = .ok (some p))
      (store : t.store = Store.requestSave (Store.setPlacement p m.session.store))
      (files : t.files = m.session.files)
  | saveFlush {p : Placement} {r : Except Settings.SaveError Unit}
      (worth : m.session.newRecord m.savedState = .ok (some p))
      (flushed : Store.flush (Store.requestSave (Store.setPlacement p m.session.store))
        m.session.files = (r, t.store, t.files))

/-- What a moment leaves alone on its way to the session `t`. -/
structure Frames (m : Moment σ) (t : Session σ) : Prop where
  width : m.turn.sizes = false →
    t.window.geometry.w = m.session.window.geometry.w ∧ t.rightColumn = m.session.rightColumn
  placed : t.placed → m.session.placed ∨ m.OpensGate
  config : t.config = m.session.config
  queue : ∀ e ∈ t.queue, e ∈ m.session.queue ∨ e.isNotice ∨
    (∃ a ∈ m.session.clock.alarms, a.event = e) ∨ ∃ single, m.turn = .act (.send e) single
  alarms : ∀ a ∈ t.clock.alarms, a ∈ m.session.clock.alarms ∨ a.event.isTimer
  placementTimer : m.session.placementTimer.Called 1 t.placementTimer
  settingsTimer : m.session.settingsTimer.Called 1 t.settingsTimer
  stores : m.Stores t

open Session

variable {m : Moment σ} {t : Session σ}

theorem Stores.congr {r : Session σ} (h : m.Stores r) (hstore : t.store = r.store)
    (hfiles : t.files = r.files) : m.Stores t := by
  cases h with
  | keep store files => exact .keep (hstore.trans store) (hfiles.trans files)
  | flush flushed => exact .flush (by rw [hstore, hfiles]; exact flushed)
  | mode event store files => exact .mode event (hstore.trans store) (hfiles.trans files)
  | frame event store files => exact .frame event (hstore.trans store) (hfiles.trans files)
  | save worth store files => exact .save worth (hstore.trans store) (hfiles.trans files)
  | saveFlush worth flushed => exact .saveFlush worth (by rw [hstore, hfiles]; exact flushed)

theorem frames_refl (m : Moment σ) : m.Frames m.session where
  width _ := ⟨rfl, rfl⟩
  placed := .inl
  config := rfl
  queue _ := .inl
  alarms _ := .inl
  placementTimer := Timer.called_refl _ _
  settingsTimer := Timer.called_refl _ _
  stores := .keep rfl rfl

/-- Going on to show the window in another way, to tell of it, and to leave the rest alone. -/
theorem Frames.shows {r : Session σ} {state : WindowState}
    {visible quitting trayAttached wasMaximized : Bool} {monitors : List Monitor}
    {es : List Event} (h : m.Frames r) (hes : ∀ e ∈ es, e.isNotice)
    (ht : t.core = { r.core with
      state := state, visible := visible, monitors := monitors, quitting := quitting
      trayAttached := trayAttached, maximizedBeforeHide := wasMaximized
      queue := r.queue ++ es }) : m.Frames t := by
  have hgeometry : t.window.geometry = r.window.geometry := congrArg Core.geometry ht
  have hcolumn : t.rightColumn = r.rightColumn := congrArg Core.rightColumn ht
  have hopen : t.placed = r.placed := congrArg Core.placed ht
  have hevents : t.queue = r.queue ++ es := congrArg Core.queue ht
  have hclock : t.clock = r.clock := congrArg Core.clock ht
  have hplacement : t.placementTimer = r.placementTimer := congrArg Core.placementTimer ht
  have hsettings : t.settingsTimer = r.settingsTimer := congrArg Core.settingsTimer ht
  have hconfig : t.config = r.config := congrArg Core.config ht
  exact {
    width := by
      rw [hgeometry, hcolumn]
      exact h.width
    placed := by
      rw [hopen]
      exact h.placed
    config := hconfig.trans h.config
    queue := by
      rw [hevents]
      intro e he
      rcases List.mem_append.mp he with he | he
      · exact h.queue e he
      · exact .inr (.inl (hes e he))
    alarms := by
      rw [hclock]
      exact h.alarms
    placementTimer := hplacement ▸ h.placementTimer
    settingsTimer := hsettings ▸ h.settingsTimer
    stores := h.stores.congr (congrArg Core.store ht) (congrArg Core.files ht) }

theorem Frames.of_core {r : Session σ} (h : m.Frames r) (ht : t.core = r.core) : m.Frames t := by
  have hnone : ∀ e ∈ ([] : List Event), e.isNotice := by simp
  apply h.shows hnone
  rw [ht, List.append_nil]
  rfl

theorem Frames.callPlacementTimer (h : m.Frames m.session) :
    m.Frames m.session.callPlacementTimer where
  width := h.width
  placed := h.placed
  config := h.config
  queue := h.queue
  alarms _ ha := (Timer.alarms_call ha).imp_right fun ⟨_, hg⟩ => hg ▸ rfl
  placementTimer := Timer.called_call _ _ _
  settingsTimer := h.settingsTimer
  stores := .keep rfl rfl

/-- Going on to have a store written later. -/
theorem Frames.saveLater {r : Session σ} {st : σ} (h : m.Frames r)
    (hsettings : r.settingsTimer = m.session.settingsTimer)
    (hstores : m.Stores (saveLater { r with store := st })) :
    m.Frames (saveLater { r with store := st }) where
  width := h.width
  placed := h.placed
  config := h.config
  queue := h.queue
  alarms a ha := by
    rcases Timer.alarms_call ha with ha | ⟨g, hg⟩
    · exact h.alarms a ha
    · exact .inr (hg ▸ rfl)
  placementTimer := h.placementTimer
  settingsTimer := by
    rw [← hsettings]
    exact Timer.called_call _ _ _
  stores := hstores

end Moment

namespace Clock

variable {ε : Type}

theorem alarms_collect {deadline n : Nat} {c : Clock ε} :
    (∀ e ∈ (collect deadline n c).1, ∃ a ∈ c.alarms, a.event = e) ∧
      ∀ a ∈ (collect deadline n c).2.alarms, a ∈ c.alarms := by
  induction n generalizing c with
  | zero => simp [collect]
  | succ n ih =>
    rw [collect]
    cases hn : c.next? deadline with
    | none => simp
    | some p =>
      obtain ⟨e, d⟩ := p
      obtain ⟨hset, hleft⟩ := next?_eq_some hn
      obtain ⟨hevents, halarms⟩ := @ih d
      simp only [List.mem_cons, forall_eq_or_imp]
      refine ⟨⟨hset, fun f hf => ?_⟩, fun a ha => hleft a (halarms a ha)⟩
      obtain ⟨a, ha, hf⟩ := hevents f hf
      exact ⟨a, hleft a ha, hf⟩

/-- The events of the alarms that go off while time passes were set, and so were the alarms that
are left. -/
theorem alarms_pass (c : Clock ε) (ms : Nat) :
    (∀ e ∈ (c.pass ms).1, ∃ a ∈ c.alarms, a.event = e) ∧
      ∀ a ∈ (c.pass ms).2.alarms, a ∈ c.alarms :=
  alarms_collect

end Clock

namespace Window

variable {w : Window}

theorem isNotice_setVisible {b : Bool} : ∀ e ∈ (w.setVisible b).2, e.isNotice := by
  rw [setVisible_events]
  cases w.visible <;> cases w.focused <;> cases b <;> simp [Event.isNotice]

theorem isNotice_setState {st : WindowState} : ∀ e ∈ (w.setState st).2, e.isNotice := by
  rw [setState_events]
  split <;> simp [Event.isNotice]

theorem isNotice_setFocus {b : Bool} : ∀ e ∈ (w.setFocus b).2, e.isNotice := by
  unfold setFocus
  split <;> simp [Event.isNotice]

theorem isNotice_setGeometry {r : Rect} : ∀ e ∈ (w.setGeometry r).2, e.isNotice := by
  intro e he
  rcases mem_setGeometry he with rfl | rfl <;> rfl

end Window

namespace Session

variable {σ : Type} [Store σ] {m : Moment σ} {r s t : Session σ}

theorem isNotice_showEvents : ∀ e ∈ s.showEvents, e.isNotice := by
  unfold showEvents
  cases s.window.visible <;> cases s.window.focused <;> split <;> simp [Event.isNotice]

/-- What only shows or hides something that no event tells of. -/
theorem frames_silent {visible quitting trayAttached wasMaximized : Bool} {monitors : List Monitor}
    (hr : m.Frames r) (h : t.core = { r.core with
      visible := visible, monitors := monitors, quitting := quitting
      trayAttached := trayAttached, maximizedBeforeHide := wasMaximized }) : m.Frames t := by
  have hnone : ∀ e ∈ ([] : List Event), e.isNotice := by simp
  apply hr.shows hnone
  rw [h, List.append_nil]
  rfl

theorem frames_enterMode {mode : WorkMode} (he : m.event? = some (.workModeChanged mode)) :
    m.Frames (m.session.enterMode mode) := by
  have hlater : m.Frames
      (saveLater { m.session with store := Store.setWorkMode mode m.session.store }) :=
    m.frames_refl.saveLater rfl (.mode he rfl rfl)
  exact frames_silent hlater rfl

theorem frames_settlePlacement : m.Frames m.session.settlePlacement :=
  { m.frames_refl with placementTimer := Timer.called_settled _ _, stores := .keep rfl rfl }

theorem frames_settleSettings : m.Frames m.session.settleSettings :=
  { m.frames_refl with settingsTimer := Timer.called_settled _ _, stores := .keep rfl rfl }

theorem frames_flush (hr : m.Frames r) (hstore : r.store = m.session.store)
    (hfiles : r.files = m.session.files) : m.Frames (flush r).2 := by
  have hstores : m.Stores (flush r).2 := by
    apply Moment.Stores.flush (r := (Store.flush r.store r.files).1)
    rw [← hstore, ← hfiles]
    rfl
  exact { hr with stores := hstores }

theorem Deed.frames {x : Turn} (h : Deed x s r) : (Moment.mk s x).Frames r := by
  have hrefl := Moment.frames_refl ⟨s, x⟩
  cases h with
  | keep => exact hrefl
  | move _ width =>
    exact { hrefl with
      width := fun hkeeps => width.resolve_left (by rw [hkeeps]; decide)
      queue := fun e he => (List.mem_append.mp he).imp_right fun he =>
        .inl (Window.isNotice_setGeometry e he)
      stores := .keep rfl rfl }
  | hide _ hides => exact hrefl.shows Window.isNotice_setVisible (hides.core.trans (core_hide s))
  | wake => exact hrefl.shows isNotice_showEvents (core_activate s)
  | setVisible => exact hrefl.shows Window.isNotice_setVisible (core_setVisible s _)
  | setState | maximize => exact hrefl.shows Window.isNotice_setState (core_setState s _)
  | setFocus => exact hrefl.shows Window.isNotice_setFocus (core_setFocus s _)
  | raise => exact hrefl.shows Window.isNotice_setFocus (core_raise s)
  | setMonitors | noteHidden | quit | attach | detach => exact frames_silent hrefl rfl
  | place opens => exact { hrefl with placed := fun _ => .inr opens, stores := .keep rfl rfl }
  | @send e single sends =>
    have hsent : ∀ f ∈ [e], ∃ single, x = .act (.send f) single := by
      intro f hf
      cases List.mem_singleton.mp hf
      exact ⟨single, sends⟩
    exact { hrefl with
      queue := fun f hf => (List.mem_append.mp hf).imp_right fun hf => .inr (.inr (hsent f hf))
      stores := .keep rfl rfl }
  | @advance ms =>
    obtain ⟨hevents, halarms⟩ := s.clock.alarms_pass ms
    exact { hrefl with
      queue := fun e he => (List.mem_append.mp he).imp_right fun he => .inr (.inl (hevents e he))
      alarms := fun a ha => .inl (halarms a ha)
      stores := .keep rfl rfl }
  | callTimer => exact hrefl.callPlacementTimer
  | settle => exact frames_settlePlacement
  | save _ worth => exact hrefl.saveLater rfl (.save worth rfl rfl)
  | settleSave _ worth => exact frames_settlePlacement.saveLater rfl (.save worth rfl rfl)
  | enter event =>
    cases event
    exact frames_enterMode rfl
  | enterShown event =>
    cases event
    exact (frames_enterMode rfl).shows isNotice_showEvents (core_activate _)
  | frame event =>
    cases event
    exact hrefl.saveLater rfl (.frame rfl rfl rfl)
  | write => exact frames_flush frames_settleSettings rfl rfl

theorem Did.frames {x : Turn} (h : Did x s t) : (Moment.mk s x).Frames t := by
  obtain ⟨r, hdeed, hcore⟩ := h
  exact hdeed.frames.of_core hcore

/-- The session after its next event was taken, from the queue or from the clock. -/
structure Taken (s r : Session σ) : Prop where
  rest : ∃ es c, r = { s with queue := es, clock := c }
  queue : ∀ e ∈ r.queue, e ∈ s.queue
  alarms : ∀ a ∈ r.clock.alarms, a ∈ s.clock.alarms

omit [Store σ] in
theorem taken_nextEvent {deadline : Nat} {e : Event} (hn : s.nextEvent? deadline = some (e, r)) :
    s.Taken r := by
  rcases nextEvent_eq_some hn with ⟨es, hq, rfl⟩ | ⟨hq, c, hc, rfl⟩
  · exact ⟨⟨es, s.clock, rfl⟩, fun f hf => hq ▸ List.mem_cons_of_mem _ hf, fun _ ha => ha⟩
  · exact ⟨⟨s.queue, c, rfl⟩, fun _ hf => hf, (Clock.next?_eq_some hc).2⟩

/-- Taking an event is part of the turn in which it is handled. -/
theorem frames_next {deadline : Nat} {e : Event} (hn : s.nextEvent? deadline = some (e, r))
    (h : handle r e = .ok t) : (Moment.mk s (.next deadline)).Frames t := by
  have htaken := taken_nextEvent hn
  have hevent := event?_next hn
  have hframes := (does_handle h).did.frames
  obtain ⟨⟨es, c, rfl⟩, hqueue, halarms⟩ := htaken
  have hsaved : (Moment.mk s (.next deadline)).savedState =
      (Moment.mk { s with queue := es, clock := c } (.handle e)).savedState := by
    simp only [Moment.savedState, Moment.told?, hevent]
    rfl
  exact {
    width := hframes.width
    placed := fun hp => (hframes.placed hp).imp_right fun hopen => by
      rcases hopen with hopen | ⟨_, hopen⟩
      · exact .inl (hevent.trans hopen)
      · cases hopen
    config := hframes.config
    queue := fun f hf => by
      rcases hframes.queue f hf with hf | hf | ⟨a, ha, hf⟩ | ⟨_, hf⟩
      · exact .inl (hqueue f hf)
      · exact .inr (.inl hf)
      · exact .inr (.inr (.inl ⟨a, halarms a ha, hf⟩))
      · cases hf
    alarms := fun a ha => (hframes.alarms a ha).imp_left (halarms a)
    placementTimer := hframes.placementTimer
    settingsTimer := hframes.settingsTimer
    stores := by
      cases hframes.stores with
      | keep store files => exact .keep store files
      | flush flushed => exact .flush flushed
      | mode event store files => exact .mode (hevent.trans event) store files
      | frame event store files => exact .frame (hevent.trans event) store files
      | save worth store files => exact .save (by rw [hsaved]; exact worth) store files
      | saveFlush worth flushed => exact .saveFlush (by rw [hsaved]; exact worth) flushed }

/-- The last part of a shutdown: the settings timer is cancelled and the settings are written. -/
theorem frames_finish (hr : m.Frames r)
    (hstores : m.Stores (flush r.cancelSettingsTimer).2) :
    m.Frames (flush r.cancelSettingsTimer).2 where
  width := hr.width
  placed := hr.placed
  config := hr.config
  queue := hr.queue
  alarms a ha := hr.alarms a (Timer.alarms_cancel ha)
  placementTimer := hr.placementTimer
  settingsTimer := by
    have hcancelled : r.settingsTimer.Called 0 r.cancelSettingsTimer.settingsTimer :=
      Timer.called_cancel Event.settingsTimer _ _ _
    exact hr.settingsTimer.trans hcancelled
  stores := hstores

theorem frames_shutdown {result : Except Settings.SaveError Unit}
    (h : shutdown s = .ok (result, t)) : (Moment.mk s .shutdown).Frames t := by
  have hrefl := Moment.frames_refl ⟨s, .shutdown⟩
  obtain ⟨r, hflush, hr⟩ := shutdown_eq_ok h
  have ht : t = (flush r.cancelSettingsTimer).2 := congrArg Prod.snd hflush.symm
  subst ht
  split at hr
  · have hcancelled : (Moment.mk s .shutdown).Frames s.cancelPlacementTimer :=
      { hrefl with
        alarms := fun a ha => .inl (Timer.alarms_cancel ha)
        placementTimer := Timer.called_cancel Event.placementTimer _ _ _
        stores := .keep rfl rfl }
    rcases savePlacement_eq_ok hr with ⟨-, rfl⟩ | ⟨p, hp, rfl⟩
    · exact frames_finish hcancelled (.flush (r := (Store.flush s.store s.files).1) rfl)
    · apply frames_finish (hcancelled.saveLater rfl (.save hp rfl rfl))
      exact .saveFlush (r := (Store.flush (Store.requestSave (Store.setPlacement p s.store))
        s.files).1) hp rfl
  · cases hr
    exact frames_finish hrefl (.flush (r := (Store.flush s.store s.files).1) rfl)

theorem frames_turn {x : Turn} (h : s.turn x = .ok t) : (Moment.mk s x).Frames t := by
  cases x with
  | act a single =>
    obtain ⟨⟨reply, u⟩, hu, rfl⟩ := map_eq_ok.mp h
    exact (does_act single hu).did.frames
  | handle e => exact (does_handle h).did.frames
  | next deadline =>
    rcases turn_next_cases h with ⟨-, rfl⟩ | ⟨e, r, hn, hr⟩
    · exact Moment.frames_refl _
    · exact frames_next hn hr
  | pass now =>
    cases h
    exact { Moment.frames_refl ⟨s, .pass now⟩ with stores := .keep rfl rfl }
  | shutdown =>
    obtain ⟨⟨result, u⟩, hu, rfl⟩ := map_eq_ok.mp h
    exact frames_shutdown hu

theorem config_course {ms : List (Moment σ)} (h : s.Course ms t) : t.config = s.config := by
  induction h with
  | start => rfl
  | turn _ ht ih => exact (frames_turn ht).config.trans ih

end Session

end WindowKeeper
