import WindowKeeper.Proofs.Session.Effects
import WindowKeeper.Proofs.Session.Lull
import WindowKeeper.Proofs.Session.Turns

namespace WindowKeeper

theorem Event.quits_of_isTimer {e : Event} (h : e.isTimer) : e.quits = false := by
  cases e with
  | closeRequested | quit => cases h
  | _ => rfl

theorem Event.quits_of_isNotice {e : Event} (h : e.isNotice) : e.quits = false := by
  cases e with
  | closeRequested | quit => cases h
  | _ => rfl

namespace Session

variable {σ : Type} [Store σ] {s t : Session σ}

theorem Deed.quitting {r : Session σ} {x : Turn} (h : Deed x s r) (hx : ¬ x.Hands (·.quits)) :
    r.quitting = s.quitting := by
  change r.core.quitting = s.core.quitting
  cases h with
  | quit hands => exact absurd hands hx
  | hide _ hides => rw [hides.core, core_hide]
  | wake => rw [core_activate]
  | enterShown =>
    rw [core_activate]
    rfl
  | setVisible => rw [core_setVisible]
  | setState | maximize => rw [core_setState]
  | setFocus => rw [core_setFocus]
  | raise => rw [core_raise]
  | _ => rfl

theorem quitting_handle {e : Event} (he : e.quits = false) (h : handle s e = .ok t) :
    t.quitting = s.quitting := by
  obtain ⟨r, hdeed, hcore⟩ := (does_handle h).did
  have hkept : r.quitting = s.quitting := hdeed.quitting (by simp [Turn.Hands, he])
  exact (congrArg Core.quitting hcore).trans hkept

/-- Nothing that waits can make the session quit. -/
structure Stays (s : Session σ) : Prop where
  running : s.quitting = false
  queue : ∀ e ∈ s.queue, e.quits = false
  timed : s.Timed

theorem stays_handle {e : Event} (hs : s.Stays) (he : e.quits = false) (h : handle s e = .ok t) :
    t.Stays where
  running := (quitting_handle he h).trans hs.running
  queue f hf := by
    have hframes := frames_turn (x := .handle e) h
    rcases hframes.queue f hf with hold | hnotice | ⟨a, ha, rfl⟩ | ⟨single, hsend⟩
    · exact hs.queue f hold
    · exact f.quits_of_isNotice hnotice
    · exact a.event.quits_of_isTimer (hs.timed a ha)
    · cases hsend
  timed := timed_handle hs.timed h

omit [Store σ] in
theorem stays_nextEvent {deadline : Nat} {e : Event} (hs : s.Stays)
    (h : s.nextEvent? deadline = some (e, t)) : t.Stays ∧ e.quits = false := by
  have htimed := timed_nextEvent hs.timed h
  rcases nextEvent_eq_some h with ⟨es, hq, rfl⟩ | ⟨hq, c, hc, rfl⟩
  · have hqueue := hs.queue
    rw [hq, List.forall_mem_cons] at hqueue
    exact ⟨⟨hs.running, hqueue.2, htimed⟩, hqueue.1⟩
  · obtain ⟨⟨a, ha, hevent⟩, -⟩ := Clock.next?_eq_some hc
    exact ⟨⟨hs.running, hs.queue, htimed⟩, hevent ▸ a.event.quits_of_isTimer (hs.timed a ha)⟩

theorem stays_wait {ms : Nat} (hs : s.Stays) (h : wait s ms = .ok t) : t.Stays := by
  refine waitUntil_keeps (P := Stays) h hs ?_ fun hs => ⟨hs.running, hs.queue, hs.timed⟩
  intro r u v e hr hn hv
  obtain ⟨hu, he⟩ := stays_nextEvent hr hn
  exact stays_handle hu he hv

theorem stays_processQueue (hs : s.Stays) (h : processQueue s = .ok t) : t.Stays := by
  refine handleQueued_keeps (P := Stays) h hs ?_
  intro r u e es hr hq hu
  obtain ⟨hrest, he⟩ := stays_nextEvent hr (nextEvent?_queued hq 0)
  exact stays_handle hrest he hu

omit [Store σ] in
theorem AtRest.stays (hs : s.AtRest) (hrunning : s.quitting = false) : s.Stays :=
  ⟨hrunning, by simp [hs.queue], hs.timed⟩

/-- One step of waiting does what two steps do that take as long. -/
theorem play_wait_wait (hs : s.AtRest) (hrunning : s.quitting = false) (rest : Script)
    (a b : Nat) : s.play (.wait a :: .wait b :: rest) = s.play (.wait (a + b) :: rest) := by
  rw [play, play, perform, perform, wait_add]
  cases hu : wait s a with
  | error o => rfl
  | ok u =>
    have hstays := stays_wait (hs.stays hrunning) hu
    have hqueue : u.queue = [] := (settle_eq_ok hu).2
    change (processQueue u >>= _) = _
    rw [processQueue_nil hqueue]
    change (if u.quitting then _ else _) = _
    rw [hstays.running]
    rfl

/-- What scripts do that agree from any rest on, they do after the same steps as well. -/
theorem play_append_congr {pre rest rest' : Script} (hs : s.AtRest) (hrunning : s.quitting = false)
    (h : ∀ u : Session σ, u.AtRest → u.quitting = false → u.play rest = u.play rest') :
    s.play (pre ++ rest) = s.play (pre ++ rest') := by
  induction pre generalizing s with
  | nil => exact h s hs hrunning
  | cons step pre ih =>
    rw [List.cons_append, List.cons_append, play, play]
    cases hu : perform s step with
    | error o => rfl
    | ok u =>
      change (processQueue u >>= _) = (processQueue u >>= _)
      cases hv : processQueue u with
      | error o => rfl
      | ok v =>
        have hrest := atRest_processQueue (timed_perform hs.timed hu) hv
        change (if v.quitting then _ else _) = (if v.quitting then _ else _)
        split
        · rfl
        · rename_i hquit
          exact ih hrest (by simpa using hquit)

omit [Store σ] in
/-- What only queues notifications can make no session quit. -/
theorem Stays.notify {es : List Event} (hs : s.Stays) (hes : ∀ e ∈ es, e.isNotice)
    (hrunning : t.quitting = s.quitting) (hqueue : t.queue = s.queue ++ es)
    (hclock : t.clock = s.clock) : t.Stays where
  running := hrunning.trans hs.running
  queue e he := by
    rw [hqueue] at he
    rcases List.mem_append.mp he with he | he
    · exact hs.queue e he
    · exact e.quits_of_isNotice (hes e he)
  timed := hs.timed.of_clock hclock

theorem stays_init (hs : s.Stays) (h : init s = .ok t) : t.Stays := by
  obtain ⟨r, frame, -, hcore⟩ := core_init h
  exact hs.notify Window.isNotice_setGeometry (congrArg Core.quitting hcore)
    (congrArg Core.queue hcore) (congrArg Core.clock hcore)

theorem stays_activate (hs : s.Stays) : (activate s).Stays := by
  have hcore := core_activate s
  exact hs.notify isNotice_showEvents (congrArg Core.quitting hcore) (congrArg Core.queue hcore)
    (congrArg Core.clock hcore)

/-- A new session comes to rest and is not quitting before its script is played. -/
theorem running_begin {window : Window} {store : σ} {files : Tree} {config : Config} {tray : Bool}
    (h : (start window store files config).begin tray = .ok t) :
    t.AtRest ∧ t.quitting = false := by
  have hstart : (start window store files config).Stays :=
    ⟨rfl, by simp [start], by simp [Timed, start, Clock.start]⟩
  have htray : (if tray then attachTray (start window store files config)
      else start window store files config).Stays := by
    cases tray with
    | false => exact hstart
    | true => exact ⟨hstart.running, hstart.queue, hstart.timed⟩
  rw [begin, bind_eq_ok] at h
  obtain ⟨u, hu, h⟩ := h
  have hu := stays_activate (stays_init htray hu)
  exact ⟨atRest_processQueue hu.timed h, (stays_processQueue hu h).running⟩

/-- A script that waits twice in a row gives the same as the script that waits once for as long,
whatever comes before and after: timers that were set before the waits or during them, with any
delay, go off in the same order, and one that is due between the two goes off after the first. -/
theorem replay_wait_wait (window : Window) (store : σ) (files : Tree) (config : Config)
    (tray : Bool) (pre rest : Script) (a b : Nat) :
    ((start window store files config).begin tray >>= fun s =>
        s.replay (pre ++ .wait a :: .wait b :: rest)) =
      (start window store files config).begin tray >>= fun s =>
        s.replay (pre ++ .wait (a + b) :: rest) := by
  cases hs : (start window store files config).begin tray with
  | error o => rfl
  | ok s =>
    obtain ⟨hrest, hrunning⟩ := running_begin hs
    change (s.play _ >>= _) = (s.play _ >>= _)
    rw [play_append_congr hrest hrunning fun u hu hurunning => play_wait_wait hu hurunning rest a b]

end Session

end WindowKeeper
