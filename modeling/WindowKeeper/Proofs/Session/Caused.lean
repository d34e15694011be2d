import WindowKeeper.Proofs.Session.Deeds

namespace WindowKeeper

/-- What an event can make the session queue, by hiding, showing or maximizing its window. -/
inductive Event.Causes : Event → List Event → Prop
  | nothing {e : Event} : Causes e []
  | hidden {e : Event} {es : List Event} (he : e.mayHide)
      (hes : es.Sublist [.activeChanged, .visibleChanged false]) : Causes e es
  | shown {e : Event} {st : WindowState} {es : List Event} (he : e.mayShow)
      (hst : st ≠ .minimized)
      (hes : es.Sublist [.stateChanged st, .visibleChanged true, .activeChanged]) : Causes e es
  | maximized {es : List Event} (hes : es.Sublist [.stateChanged .maximized]) :
      Causes (.visibleChanged true) es

/-- What an event can make of the clock, by calling a timer. -/
inductive Event.Sets : Event → Clock Event → Clock Event → Prop
  | nothing {e : Event} {c : Clock Event} : Sets e c c
  | placement {e : Event} {c : Clock Event} (he : e.movesWindow) (t : Timer) :
      Sets e c (t.call .placementTimer c).2
  | settings {e : Event} {c : Clock Event} (he : e.maySave) (t : Timer) :
      Sets e c (t.call .settingsTimer c).2

/-- `c'` is `c` with what an event can cause, behind all that is queued already. -/
structure Core.Reacts {σ : Type} (e : Event) (c c' : Core σ) : Prop where
  queue : ∃ es, e.Causes es ∧ c'.queue = c.queue ++ es
  clock : e.Sets c.clock c'.clock

theorem Core.reacts_of_queue {σ : Type} {e : Event} {c c' : Core σ} (hqueue : c'.queue = c.queue)
    (hclock : e.Sets c.clock c'.clock) : c.Reacts e c' :=
  ⟨⟨[], .nothing, hqueue.trans (List.append_nil _).symm⟩, hclock⟩

theorem Core.reacts_self {σ : Type} (e : Event) (c : Core σ) : c.Reacts e c :=
  c.reacts_of_queue rfl .nothing

namespace Session

variable {σ : Type}

theorem hiding_events (w : Window) :
    (w.setVisible false).2.Sublist [.activeChanged, .visibleChanged false] := by
  rw [Window.setVisible_events]
  cases w.visible <;> cases w.focused <;> simp

theorem maximizing_events (w : Window) :
    (w.setState .maximized).2.Sublist [.stateChanged .maximized] := by
  rw [Window.setState_events]
  split <;> simp

theorem reacts_hide {s t : Session σ} {e : Event} (he : e.mayHide)
    (h : t.core = (hide s).core) : s.core.Reacts e t.core := by
  rw [h, core_hide]
  exact ⟨⟨_, .hidden he (hiding_events s.window), rfl⟩, .nothing⟩

variable [Store σ]

theorem showing_events (s : Session σ) :
    s.showEvents.Sublist [.stateChanged s.wakeState, .visibleChanged true, .activeChanged] := by
  unfold showEvents
  split <;> cases s.window.visible <;> cases s.window.focused <;> simp

theorem reacts_activate {s t : Session σ} {e : Event} (he : e.mayShow) (hqueue : s.queue = t.queue)
    (hclock : e.Sets t.clock s.clock) : t.core.Reacts e (activate s).core := by
  rw [core_activate]
  exact ⟨⟨_, .shown he s.wakeState_ne s.showing_events, hqueue ▸ rfl⟩, hclock⟩

/-- Handling an event leaves no more to be handled than the event can cause. -/
theorem Deed.reacts {s t : Session σ} {e : Event} (h : Deed (.handle e) s t) :
    s.core.Reacts e t.core := by
  cases h with
  | keep => exact s.core.reacts_self e
  | move moves => cases moves
  | setVisible only | setState only | setFocus only | raise only | setMonitors only | attach only
  | detach only | send only | advance only => cases only
  | hide hands hides => exact reacts_hide hands hides.core
  | wake hands => exact reacts_activate hands rfl .nothing
  | maximize hands =>
    obtain rfl : e = .visibleChanged true := hands
    rw [core_setState]
    exact ⟨⟨_, .maximized (maximizing_events s.window), rfl⟩, .nothing⟩
  | noteHidden | quit | place | settle | write => exact Core.reacts_of_queue rfl .nothing
  | callTimer hands => exact Core.reacts_of_queue rfl (.placement hands s.placementTimer)
  | save hands =>
    have he : e.maySave := by
      cases e with
      | stateChanged => rfl
      | _ => cases hands
    exact Core.reacts_of_queue rfl (.settings he s.settingsTimer)
  | settleSave event =>
    cases event
    exact Core.reacts_of_queue rfl (.settings rfl s.settingsTimer)
  | enter event =>
    cases event
    exact Core.reacts_of_queue rfl (.settings rfl s.settingsTimer)
  | enterShown event =>
    cases event
    exact reacts_activate rfl rfl (.settings rfl s.settingsTimer)
  | frame event =>
    cases event
    exact Core.reacts_of_queue rfl (.settings rfl s.settingsTimer)

theorem reacts_handle {s t : Session σ} {e : Event} (h : handle s e = .ok t) :
    s.core.Reacts e t.core := by
  obtain ⟨r, hdeed, hcore⟩ := (does_handle h).did
  rw [hcore]
  exact hdeed.reacts

end Session

end WindowKeeper
