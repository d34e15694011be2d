import WindowKeeper.Proofs.Session.Moved
import WindowKeeper.Proofs.Session.Queue
import WindowKeeper.Proofs.Session.Runs
import WindowKeeper.Script.Replay

namespace WindowKeeper

def Event.isTimer : Event → Bool
  | .placementTimer _ => true
  | .settingsTimer _ => true
  | _ => false

/-- The event that a step hands to the session. -/
def Script.Step.event? : Script.Step → Option Event
  | .placed => some .placed
  | .tray activation => some (.trayActivated activation)
  | .unread count => some (.unreadChanged count)
  | .workMode mode => some (.workModeChanged mode)
  | .nativeFrame native => some (.nativeFrameChanged native)
  | .close => some .closeRequested
  | _ => none

namespace Clock

variable {ε : Type}

theorem mem_earliest {a : Alarm ε} {as : List (Alarm ε)} {b : Alarm ε} :
    b ∈ (earliest a as).1 :: (earliest a as).2 ↔ b ∈ a :: as := by
  induction as generalizing a with
  | nil => simp [earliest]
  | cons c as ih =>
    have hc := @ih c
    rw [earliest]
    cases hd : earliest c as with
    | mk d others =>
      simp only [hd, List.mem_cons] at hc
      simp only
      split
      · rfl
      · simp only [List.mem_cons]
        rw [or_left_comm, hc]

/-- The event that goes off next was set, and nothing new is set by it. -/
theorem next?_eq_some {c d : Clock ε} {deadline : Nat} {e : ε}
    (h : c.next? deadline = some (e, d)) :
    (∃ a ∈ c.alarms, a.event = e) ∧ ∀ a ∈ d.alarms, a ∈ c.alarms := by
  unfold next? at h
  cases ha : c.alarms with
  | nil => simp [ha] at h
  | cons a as =>
    have hmem := @mem_earliest ε a as
    simp only [ha] at h
    split at h
    · cases h
      exact ⟨⟨_, hmem.mp List.mem_cons_self, rfl⟩, fun b hb => hmem.mp (List.mem_cons_of_mem _ hb)⟩
    · cases h

end Clock

theorem Timer.alarms_cancel {ε : Type} [DecidableEq ε] {t : Timer} {event : UInt64 → ε}
    {c : Clock ε} {a : Alarm ε} (h : a ∈ (t.cancel event c).2.alarms) : a ∈ c.alarms := by
  unfold cancel at h
  split at h
  · exact (List.mem_filter.mp h).1
  · exact h

theorem Timer.alarms_call {ε : Type} [DecidableEq ε] {t : Timer} {event : UInt64 → ε} {c : Clock ε}
    {a : Alarm ε} (h : a ∈ (t.call event c).2.alarms) :
    a ∈ c.alarms ∨ ∃ g, a.event = event g := by
  simp only [call, Clock.set, List.mem_append, List.mem_singleton] at h
  rcases h with h | rfl
  · exact .inl (alarms_cancel h)
  · exact .inr ⟨_, rfl⟩

namespace Session

variable {σ : Type}

/-- Every alarm is that of a timer. -/
def Timed (s : Session σ) : Prop := ∀ a ∈ s.clock.alarms, a.event.isTimer

theorem Timed.of_clock {s t : Session σ} (hs : s.Timed) (h : t.clock = s.clock) : t.Timed := by
  rw [Timed, h]
  exact hs

theorem Timed.of_call {s t : Session σ} {r : Timer} {event : UInt64 → Event} (hs : s.Timed)
    (hevent : ∀ g, (event g).isTimer) (h : t.clock = (r.call event s.clock).2) : t.Timed := by
  rw [Timed, h]
  intro a ha
  rcases Timer.alarms_call ha with ha | ⟨g, ha⟩
  · exact hs a ha
  · rw [ha]
    exact hevent g

/-- What an event makes of the clock are the alarms of timers. -/
theorem Timed.of_sets {s t : Session σ} {e : Event} (hs : s.Timed)
    (h : e.Sets s.clock t.clock) : t.Timed := by
  generalize hclock : t.clock = c at h
  cases h with
  | nothing => exact hs.of_clock hclock
  | placement => exact hs.of_call (fun _ => rfl) hclock
  | settings => exact hs.of_call (fun _ => rfl) hclock

theorem timed_nextEvent {s t : Session σ} {deadline : Nat} {e : Event} (hs : s.Timed)
    (h : s.nextEvent? deadline = some (e, t)) : t.Timed := by
  rcases nextEvent_eq_some h with ⟨es, -, rfl⟩ | ⟨-, c, hc, rfl⟩
  · exact hs.of_clock rfl
  · intro a ha
    exact hs a ((Clock.next?_eq_some hc).2 a ha)

variable [Store σ]

theorem Timed.saveLater {s : Session σ} (hs : s.Timed) : (saveLater s).Timed :=
  hs.of_call (fun _ => rfl) (congrArg Core.clock (core_saveLater s))

theorem timed_activate {s : Session σ} (hs : s.Timed) : (activate s).Timed :=
  hs.of_clock (congrArg Core.clock (core_activate s))

theorem timed_handle {s t : Session σ} {e : Event} (hs : s.Timed) (h : handle s e = .ok t) :
    t.Timed :=
  hs.of_sets (reacts_handle h).clock

theorem timed_waitUntil {deadline n : Nat} {s t : Session σ} (hs : s.Timed)
    (h : waitUntil deadline n s = .ok t) : t.Timed :=
  waitUntil_keeps h hs (fun hs hn hv => timed_handle (timed_nextEvent hs hn) hv) id

theorem timed_handleQueued {n : Nat} {s t : Session σ} (hs : s.Timed)
    (h : handleQueued n s = .ok t) : t.Timed := by
  refine handleQueued_keeps h hs ?_
  intro r u e es hr _ hu
  have hpop : ({ r with queue := es } : Session σ).Timed := hr.of_clock rfl
  exact timed_handle hpop hu

theorem perform_eq_handle {s : Session σ} {step : Script.Step} {e : Event}
    (h : step.event? = some e) : perform s step = handle s e := by
  cases step <;> cases h <;> rfl

theorem timed_perform {s t : Session σ} {step : Script.Step} (hs : s.Timed)
    (h : perform s step = .ok t) : t.Timed := by
  cases he : step.event? with
  | some e =>
    rw [perform_eq_handle he] at h
    exact timed_handle hs h
  | none =>
    cases step with
    | wait ms =>
      rw [perform, wait] at h
      exact timed_waitUntil hs h
    | rightColumn width =>
      rcases core_setRightColumn h with ⟨-, hcore⟩ | ⟨-, _, _, _, -, -, hcore⟩
      · exact hs.of_clock (congrArg Core.clock hcore)
      · exact hs.of_clock (congrArg Core.clock hcore)
    | move | resize | state | visible | focus | monitors =>
      cases h
      exact hs.of_clock rfl
    | _ => cases he

/-- A session between two steps of a script. -/
structure AtRest (s : Session σ) : Prop where
  queue : s.queue = []
  timed : s.Timed

theorem atRest_processQueue {s t : Session σ} (hs : s.Timed) (h : processQueue s = .ok t) :
    t.AtRest :=
  ⟨processQueue_queue h, timed_handleQueued hs h⟩

theorem atRest_play {s t : Session σ} {script : Script} (hs : s.AtRest)
    (h : s.play script = .ok t) : t.AtRest :=
  play_keeps h hs (fun _ hs hu => timed_perform hs.timed hu) atRest_processQueue

theorem atRest_begin {s t : Session σ} {tray : Bool} (hs : s.Timed) (h : s.begin tray = .ok t) :
    t.AtRest := by
  simp only [begin, bind_eq_ok] at h
  obtain ⟨u, hu, h⟩ := h
  obtain ⟨r, frame, -, hcore⟩ := core_init hu
  have hclock : u.clock = s.clock := by
    refine (congrArg Core.clock hcore).trans ?_
    cases tray <;> rfl
  exact atRest_processQueue (timed_activate (hs.of_clock hclock)) h

end Session

end WindowKeeper
