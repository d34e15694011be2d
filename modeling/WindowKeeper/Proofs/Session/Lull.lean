import WindowKeeper.Proofs.Session.Calls
import WindowKeeper.Proofs.Session.Runs

namespace WindowKeeper.Session

variable {σ : Type} [Store σ] {s : Session σ} {deadline due : Nat} {e : Event}

omit [Store σ] in
theorem now_setTime (s : Session σ) (time : Nat) : (s.setTime time).clock.now = time := rfl

theorem processQueue_nil (hqueue : s.queue = []) : processQueue s = .ok s := by
  rw [processQueue, hqueue]
  rfl

theorem waitUntil_clear (n : Nat) (hqueue : s.queue = []) (halarms : s.clock.alarms = []) :
    waitUntil deadline n s = .ok (s.setTime deadline) := by
  cases n with
  | zero => rfl
  | succ n => simp only [waitUntil, nextEvent?, hqueue, Clock.next?, halarms, Option.map_none]

omit [Store σ] in
theorem nextEvent?_alarm (hqueue : s.queue = []) (halarms : s.clock.alarms = [⟨due, e⟩]) :
    s.nextEvent? deadline =
      if due < deadline then some (e, { s with clock := ⟨max s.clock.now due, []⟩ }) else none := by
  have hnext : s.clock.next? deadline =
      if due < deadline then some (e, ⟨max s.clock.now due, []⟩) else none := by
    simp only [Clock.next?, halarms, Clock.earliest]
    rfl
  simp only [nextEvent?, hqueue, hnext]
  by_cases hdue : due < deadline
  · rw [if_pos hdue, if_pos hdue]
    rfl
  · rw [if_neg hdue, if_neg hdue]
    rfl

/-- The only alarm goes off if it comes before the deadline. -/
theorem waitUntil_alarm (n : Nat) (hqueue : s.queue = []) (halarms : s.clock.alarms = [⟨due, e⟩]) :
    waitUntil deadline (n + 1) s =
      if due < deadline then
        handle { s with clock := ⟨max s.clock.now due, []⟩ } e >>= waitUntil deadline n
      else .ok (s.setTime deadline) := by
  rw [waitUntil, nextEvent?_alarm hqueue halarms]
  by_cases hdue : due < deadline
  · rw [if_pos hdue, if_pos hdue]
  · rw [if_neg hdue, if_neg hdue]

/-- Time passes before the only alarm goes off. -/
theorem wait_early {n : Nat} (hqueue : s.queue = []) (halarms : s.clock.alarms = [⟨due, e⟩])
    (hn : s.clock.now + n ≤ due) : wait s n = .ok (s.setTime (s.clock.now + n)) := by
  have hturns : s.turns = 7 + 1 := by simp [turns, hqueue, halarms]
  rw [wait, hturns, waitUntil_alarm 7 hqueue halarms, if_neg (by omega)]

/-- The session after its settings timer went off. -/
def flushed (s : Session σ) : Session σ :=
  (flush (settleSettings { s with clock := { s.clock with alarms := [] } })).2

theorem waitUntil_flush (deadline n : Nat) (hqueue : s.queue = [])
    (halarms : s.clock.alarms = [⟨due, .settingsTimer s.settingsTimer.generation⟩])
    (hpending : s.settingsTimer.pending) :
    waitUntil deadline (n + 1) s =
      .ok ((if due < deadline then s.flushed else s).setTime deadline) := by
  rw [waitUntil_alarm n hqueue halarms]
  split
  · have hawaits : s.settingsTimer.awaits s.settingsTimer.generation := by
      simp [Timer.awaits, hpending]
    rw [handle_settingsTimer, if_pos hawaits]
    exact waitUntil_clear n hqueue rfl
  · rfl

/-- Nothing is queued, and the placement timer alone is running, until `due`. -/
structure Armed (s : Session σ) (due : Nat) : Prop where
  queue : s.queue = []
  alarms : s.clock.alarms = [⟨due, .placementTimer s.placementTimer.generation⟩]
  pending : s.placementTimer.pending
  idle : s.settingsTimer.pending = false

/-- The session at the moment when its placement timer has gone off. -/
def landed (s : Session σ) (due : Nat) : Session σ :=
  settlePlacement { s with clock := ⟨due, []⟩ }

/-- The session that stored a record, at a later time. -/
def storedAt (s : Session σ) (p : Placement) (time : Nat) : Session σ :=
  if s.clock.now + s.settingsTimer.delay < time then (s.storeRecord p).flushed else s.storeRecord p

/-- An armed session at a later time, `o` being what there is to save when its timer goes off. -/
def leftAlone (s : Session σ) (due : Nat) (o : Option Placement) (time : Nat) : Session σ :=
  (if due < time then o.elim (s.landed due) fun p => (s.landed due).storedAt p time
    else s).setTime time

theorem savePlacement_of_newRecord {state : WindowState} {o : Option Placement}
    (h : s.newRecord state = .ok o) : savePlacement s state = .ok (o.elim s s.storeRecord) := by
  change (s.attempt (s.newRecord state) >>= _) = _
  rw [h]
  cases o with
  | none => rfl
  | some p => rfl

/-- A record that is stored starts the settings timer. -/
theorem alarms_storeRecord (hidle : s.settingsTimer.pending = false) (p : Placement) :
    (s.storeRecord p).settingsTimer.pending = true ∧
      (s.storeRecord p).clock.alarms = s.clock.alarms ++ [⟨s.clock.now + s.settingsTimer.delay,
        .settingsTimer (s.storeRecord p).settingsTimer.generation⟩] := by
  simp [storeRecord, saveLater, callSettingsTimer, Timer.call_eq, Timer.cancel, hidle, Clock.set]

variable {o : Option Placement}

theorem waitUntil_armed (deadline n : Nat) (hs : s.Armed due) (hnow : s.clock.now ≤ due)
    (ho : s.newRecord s.window.state = .ok o) :
    waitUntil deadline (n + 2) s = .ok (s.leftAlone due o deadline) := by
  rw [waitUntil_alarm (n + 1) hs.queue hs.alarms, leftAlone]
  split
  · have hawaits : s.placementTimer.awaits s.placementTimer.generation := by
      simp [Timer.awaits, hs.pending]
    have hlanded : (s.landed due).newRecord s.window.state = .ok o := ho
    rw [handle_placementTimer, if_pos hawaits, Nat.max_eq_right hnow]
    change (savePlacement (s.landed due) s.window.state >>= _) = _
    rw [savePlacement_of_newRecord hlanded]
    cases o with
    | none => exact waitUntil_clear (n + 1) hs.queue rfl
    | some p =>
      obtain ⟨hpending, halarms⟩ := alarms_storeRecord (s := s.landed due) hs.idle p
      exact waitUntil_flush deadline n hs.queue halarms hpending
  · rfl

theorem queue_storedAt (s : Session σ) (p : Placement) (time : Nat) :
    (s.storedAt p time).queue = s.queue := by
  unfold storedAt
  split
  · rfl
  · rfl

theorem queue_leftAlone (hs : s.Armed due) (time : Nat) : (s.leftAlone due o time).queue = [] := by
  unfold leftAlone
  split
  · cases o with
    | none => exact hs.queue
    | some p => exact (queue_storedAt (s.landed due) p time).trans hs.queue
  · exact hs.queue

/-- A session that stored a record waits for its settings timer, or no longer. -/
theorem wait_storedAt (hqueue : s.queue = []) (halarms : s.clock.alarms = [])
    (hidle : s.settingsTimer.pending = false) (p : Placement) (time n : Nat) :
    wait ((s.storedAt p time).setTime time) n =
      .ok ((s.storedAt p (time + n)).setTime (time + n)) := by
  unfold storedAt
  by_cases hdue : s.clock.now + s.settingsTimer.delay < time
  · rw [if_pos hdue, if_pos (Nat.lt_of_lt_of_le hdue (Nat.le_add_right time n))]
    exact waitUntil_clear _ hqueue rfl
  · obtain ⟨hpending, hset⟩ := alarms_storeRecord hidle p
    rw [halarms, List.nil_append] at hset
    have hturns : ((s.storeRecord p).setTime time).turns = 7 + 1 := by
      change 8 * (s.queue.length + (s.storeRecord p).clock.alarms.length) = _
      rw [hqueue, hset]
      rfl
    have hwait := waitUntil_flush (s := (s.storeRecord p).setTime time) (time + n) 7 hqueue
      hset hpending
    rw [if_neg hdue, wait, now_setTime, hturns, hwait]
    split
    · rfl
    · rfl

/-- Waiting on leads to where the session stands at the later time. -/
theorem wait_leftAlone (hs : s.Armed due) (ho : s.newRecord s.window.state = .ok o)
    (time n : Nat) : wait (s.leftAlone due o time) n = .ok (s.leftAlone due o (time + n)) := by
  unfold leftAlone
  by_cases hdue : due < time
  · rw [if_pos hdue, if_pos (Nat.lt_of_lt_of_le hdue (Nat.le_add_right time n))]
    cases o with
    | none => exact waitUntil_clear _ hs.queue rfl
    | some p => exact wait_storedAt (s := s.landed due) hs.queue rfl hs.idle p time n
  · have hturns : (s.setTime time).turns = 6 + 2 := by
      change 8 * (s.queue.length + s.clock.alarms.length) = _
      rw [hs.queue, hs.alarms]
      rfl
    have hwait := waitUntil_armed (s := s.setTime time) (time + n) 6
      ⟨hs.queue, hs.alarms, hs.pending, hs.idle⟩ (Nat.le_of_not_lt hdue) ho
    rw [if_neg hdue, wait, now_setTime, hturns, hwait, leftAlone]
    split
    · rfl
    · rfl

end WindowKeeper.Session
