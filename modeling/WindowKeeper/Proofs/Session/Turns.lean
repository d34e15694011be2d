import WindowKeeper.Proofs.Session.Alarms
import WindowKeeper.Proofs.Session.Calls

namespace WindowKeeper

/-- How many turns an event takes at most, with the events and the alarms that it causes. -/
def Event.burden : Event → Nat
  | .moved => 3
  | .resized => 3
  | .stateChanged .minimized => 4
  | .stateChanged _ => 2
  | .visibleChanged true => 3
  | .trayActivated _ => 7
  | .workModeChanged _ => 8
  | .nativeFrameChanged _ => 2
  | .closeRequested => 3
  | .placementTimer _ => 2
  | _ => 1

/-- The burden of the alarm that an event can set. -/
def Event.alarmBurden (e : Event) : Nat :=
  if e.movesWindow then 2 else if e.maySave then 1 else 0

theorem Event.burden_pos (e : Event) : 0 < e.burden := by
  unfold burden
  split <;> decide

theorem Event.burden_le (e : Event) : e.burden ≤ 8 := by
  unfold burden
  split <;> decide

theorem Event.burden_sublist {es fs : List Event} (h : es.Sublist fs) :
    (es.map burden).sum ≤ (fs.map burden).sum :=
  (h.map burden).sum_le_sum fun _ _ => Nat.zero_le _

/-- An event has a larger burden than what it causes, the alarm that it can set included. -/
theorem Event.burden_causes {e : Event} {es : List Event} (h : e.Causes es) :
    (es.map burden).sum + e.alarmBurden < e.burden := by
  cases h with
  | nothing =>
    cases e with
    | stateChanged st => cases st <;> decide
    | visibleChanged b => cases b <;> decide
    | _ => simp [alarmBurden, movesWindow, maySave, burden]
  | hidden he hes =>
    have hburden := burden_sublist hes
    have hlarger : 2 + e.alarmBurden < e.burden := by
      cases e with
      | stateChanged st => cases st <;> first | decide | cases he
      | trayActivated | closeRequested => simp [alarmBurden, movesWindow, maySave, burden]
      | _ => cases he
    have htwo : ([.activeChanged, .visibleChanged false].map burden).sum = 2 := rfl
    omega
  | @shown _ st _ he hst hes =>
    have hburden := burden_sublist hes
    have hall : ([.stateChanged st, .visibleChanged true, .activeChanged].map burden).sum = 6 := by
      cases st with
      | minimized => exact absurd rfl hst
      | _ => rfl
    have hlarger : 6 + e.alarmBurden < e.burden := by
      cases e with
      | trayActivated | workModeChanged => simp [alarmBurden, movesWindow, maySave, burden]
      | _ => cases he
    omega
  | maximized hes => exact Nat.lt_of_le_of_lt (burden_sublist hes) (by decide)

namespace Clock

/-- The burden of the events of the alarms that are set. -/
def burden (c : Clock Event) : Nat := (c.alarms.map fun a => a.event.burden).sum

theorem burden_set (c : Clock Event) (delay : Nat) (e : Event) :
    (c.set delay e).burden = c.burden + e.burden := by
  simp [burden, set]

theorem burden_unset (c : Clock Event) (e : Event) : (c.unset e).burden ≤ c.burden :=
  (List.filter_sublist.map _).sum_le_sum fun _ _ => Nat.zero_le _

theorem earliest_perm {ε : Type} (a : Alarm ε) (as : List (Alarm ε)) :
    ((earliest a as).1 :: (earliest a as).2).Perm (a :: as) := by
  induction as generalizing a with
  | nil => exact .refl _
  | cons b as ih =>
    have hb := ih b
    rw [earliest]
    cases hd : earliest b as with
    | mk d others =>
      rw [hd] at hb
      simp only
      split
      · exact .refl _
      · exact (List.Perm.swap a d others).trans (hb.cons a)

section
variable {ε : Type} {c : Clock ε} {deadline later : Nat}

theorem next?_later {p : ε × Clock ε} (hle : deadline ≤ later) (h : c.next? deadline = some p) :
    c.next? later = some p := by
  unfold next? at h ⊢
  cases ha : c.alarms with
  | nil => simp [ha] at h
  | cons a as =>
    simp only [ha] at h ⊢
    split at h
    · rename_i hdue
      rw [if_pos (Nat.lt_of_lt_of_le hdue hle)]
      exact h
    · cases h

theorem next?_passed (hnow : c.now ≤ deadline) (h : c.next? deadline = none) :
    (Clock.mk deadline c.alarms).next? later = c.next? later := by
  unfold next? at h ⊢
  cases ha : c.alarms with
  | nil => rfl
  | cons a as =>
    simp only [ha] at h ⊢
    split at h
    · cases h
    · rename_i hdue
      have hmax : max c.now (earliest a as).1.due = max deadline (earliest a as).1.due := by omega
      rw [hmax]

end

end Clock

theorem Timer.burden_cancel (t : Timer) (event : UInt64 → Event) (c : Clock Event) :
    (t.cancel event c).2.burden ≤ c.burden := by
  unfold cancel
  split
  · exact c.burden_unset _
  · exact Nat.le_refl _

theorem Timer.now_cancel {ε : Type} [DecidableEq ε] (t : Timer) (event : UInt64 → ε)
    (c : Clock ε) : (t.cancel event c).2.now = c.now := by
  unfold cancel
  split <;> rfl

theorem Event.burden_sets {e : Event} {c d : Clock Event} (h : e.Sets c d) :
    d.burden ≤ c.burden + e.alarmBurden := by
  cases h with
  | nothing => exact Nat.le_add_right _ _
  | placement he t =>
    have hcancel := t.burden_cancel .placementTimer c
    rw [Timer.call_eq, Clock.burden_set, alarmBurden, if_pos he]
    exact Nat.add_le_add_right hcancel 2
  | settings he t =>
    have hcancel := t.burden_cancel .settingsTimer c
    have halarm : 1 ≤ e.alarmBurden := by
      rw [alarmBurden, if_pos he]
      split <;> decide
    rw [Timer.call_eq, Clock.burden_set]
    exact Nat.add_le_add hcancel halarm

theorem Event.now_sets {e : Event} {c d : Clock Event} (h : e.Sets c d) : d.now = c.now := by
  cases h with
  | nothing => rfl
  | placement _ t => exact t.now_cancel _ c
  | settings _ t => exact t.now_cancel _ c

namespace Session

variable {σ : Type}

/-- The burden of all that waits, queued or set as an alarm. -/
def burden (s : Session σ) : Nat := (s.queue.map Event.burden).sum + s.clock.burden

theorem burden_le_turns (s : Session σ) : s.burden ≤ s.turns := by
  have hqueue := List.sum_le_card_nsmul (s.queue.map Event.burden) 8
    (List.forall_mem_map.mpr fun e _ => e.burden_le)
  have hclock := List.sum_le_card_nsmul (s.clock.alarms.map fun a => a.event.burden) 8
    (List.forall_mem_map.mpr fun a _ => a.event.burden_le)
  rw [List.length_map, smul_eq_mul] at hqueue hclock
  simp only [burden, Clock.burden, turns]
  omega

variable {s t : Session σ} {m n : Nat} [Store σ]

theorem now_handle {e : Event} (h : handle s e = .ok t) : t.clock.now = s.clock.now :=
  Event.now_sets (reacts_handle h).clock

/-- Handling an event takes more burden off than it adds. -/
theorem burden_handle {e : Event} (h : handle s e = .ok t) : t.burden < s.burden + e.burden := by
  have hreacts := reacts_handle h
  obtain ⟨es, hcauses, hqueue⟩ := hreacts.queue
  have hes := Event.burden_causes hcauses
  have hclock : t.clock.burden ≤ s.clock.burden + e.alarmBurden := Event.burden_sets hreacts.clock
  have hqueue : t.queue = s.queue ++ es := hqueue
  rw [burden, burden, hqueue, List.map_append, List.sum_append]
  omega

omit [Store σ] in
/-- An event that is taken leaves the burden of the others. -/
theorem burden_nextEvent {deadline : Nat} {e : Event} (h : s.nextEvent? deadline = some (e, t)) :
    s.burden = e.burden + t.burden := by
  rcases nextEvent_eq_some h with ⟨es, hq, rfl⟩ | ⟨hq, c, hc, rfl⟩
  · simp only [burden, hq, List.map_cons, List.sum_cons]
    omega
  · have hclock : s.clock.burden = e.burden + c.burden := by
      unfold Clock.next? at hc
      cases ha : s.clock.alarms with
      | nil => simp [ha] at hc
      | cons a as =>
        have hperm := ((Clock.earliest_perm a as).map fun a => a.event.burden).sum_eq
        simp only [ha] at hc
        split at hc
        · cases hc
          rw [Clock.burden, ha]
          exact hperm.symm
        · cases hc
    simp only [burden, hq, List.map_nil, List.sum_nil, hclock]
    omega

omit [Store σ] in
theorem nextEvent_of_unburdened (deadline : Nat) (h : s.burden = 0) :
    s.nextEvent? deadline = none := by
  cases hn : s.nextEvent? deadline with
  | none => rfl
  | some p =>
    have hburden := burden_nextEvent hn
    have hpos := p.1.burden_pos
    omega

section
variable {deadline : Nat} {e : Event}

theorem waitUntil_none (h : s.nextEvent? deadline = none) (n : Nat) :
    waitUntil deadline n s = .ok (s.setTime deadline) := by
  cases n with
  | zero => rfl
  | succ n => rw [waitUntil, h]

theorem waitUntil_some (h : s.nextEvent? deadline = some (e, t)) (n : Nat) :
    waitUntil deadline (n + 1) s = handle t e >>= waitUntil deadline n := by
  rw [waitUntil, h]

/-- More turns than the burden change nothing. -/
theorem waitUntil_turns (hm : s.burden ≤ m) (hn : s.burden ≤ n) :
    waitUntil deadline m s = waitUntil deadline n s := by
  induction m generalizing s n with
  | zero =>
    have hnone := nextEvent_of_unburdened deadline (Nat.le_zero.mp hm)
    rw [waitUntil_none hnone, waitUntil_none hnone]
  | succ m ih =>
    cases hnext : s.nextEvent? deadline with
    | none => rw [waitUntil_none hnext, waitUntil_none hnext]
    | some p =>
      obtain ⟨e, u⟩ := p
      have hburden := burden_nextEvent hnext
      have hpos := e.burden_pos
      obtain ⟨n, rfl⟩ : ∃ k, n = k + 1 := ⟨n - 1, by omega⟩
      rw [waitUntil_some hnext, waitUntil_some hnext]
      cases hv : handle u e with
      | error o => rfl
      | ok v =>
        have hless := burden_handle hv
        have hm' : v.burden ≤ m := by omega
        exact ih hm' (by omega)

/-- Handles all events before a deadline. -/
def settle (deadline : Nat) (s : Session σ) : Outcome σ (Session σ) := waitUntil deadline s.turns s

theorem wait_eq_settle (s : Session σ) (ms : Nat) : wait s ms = settle (s.clock.now + ms) s := rfl

theorem settle_none (h : s.nextEvent? deadline = none) :
    settle deadline s = .ok (s.setTime deadline) := waitUntil_none h s.turns

theorem settle_some (h : s.nextEvent? deadline = some (e, t)) :
    settle deadline s = handle t e >>= settle deadline := by
  have hburden := burden_nextEvent h
  have hturns : settle deadline s = waitUntil deadline (s.burden + 1) s :=
    waitUntil_turns s.burden_le_turns (Nat.le_succ _)
  rw [hturns, waitUntil_some h]
  cases hu : handle t e with
  | error o => rfl
  | ok u =>
    have hless := burden_handle hu
    have hturns : u.burden ≤ s.burden := by omega
    exact waitUntil_turns hturns u.burden_le_turns

omit [Store σ] in
theorem nextEvent_eq_none (h : s.nextEvent? deadline = none) :
    s.queue = [] ∧ s.clock.next? deadline = none := by
  unfold nextEvent? at h
  cases hq : s.queue with
  | cons e es => simp [hq] at h
  | nil =>
    simp only [hq, Option.map_eq_none_iff] at h
    exact ⟨rfl, h⟩

omit [Store σ] in
theorem nextEvent_of_idle (hqueue : s.queue = []) (deadline : Nat) :
    s.nextEvent? deadline =
      (s.clock.next? deadline).map fun p => (p.1, { s with clock := p.2 }) := by
  rw [nextEvent?, hqueue]

omit [Store σ] in
/-- What comes next before a deadline is what comes next before a later one. -/
theorem nextEvent_later {later : Nat} (hle : deadline ≤ later)
    (h : s.nextEvent? deadline = some (e, t)) : s.nextEvent? later = some (e, t) := by
  cases hq : s.queue with
  | cons e' es =>
    rw [nextEvent?, hq] at h ⊢
    exact h
  | nil =>
    rw [nextEvent_of_idle hq, Option.map_eq_some_iff] at h ⊢
    obtain ⟨p, hp, h⟩ := h
    exact ⟨p, Clock.next?_later hle hp, h⟩

omit [Store σ] in
/-- When nothing comes before a deadline, what comes after it is the same once the time has passed
up to it. -/
theorem nextEvent_setTime (later : Nat) (hnow : s.clock.now ≤ deadline)
    (h : s.nextEvent? deadline = none) :
    (s.setTime deadline).nextEvent? later = s.nextEvent? later := by
  obtain ⟨hq, hnone⟩ := nextEvent_eq_none h
  have hpassed : (s.setTime deadline).clock.next? later = s.clock.next? later :=
    Clock.next?_passed hnow hnone
  have hq' : (s.setTime deadline).queue = [] := hq
  rw [nextEvent_of_idle hq', nextEvent_of_idle hq, hpassed]
  rfl

/-- A wait that ends has come to its deadline, with nothing queued. -/
theorem settle_eq_ok (h : settle deadline s = .ok t) : t.clock.now = deadline ∧ t.queue = [] := by
  induction hb : s.burden using Nat.strongRecOn generalizing s with
  | ind b ih =>
    cases hn : s.nextEvent? deadline with
    | none =>
      rw [settle_none hn] at h
      cases h
      exact ⟨rfl, (nextEvent_eq_none hn).1⟩
    | some p =>
      obtain ⟨e, u⟩ := p
      rw [settle_some hn, bind_eq_ok] at h
      obtain ⟨v, hv, h⟩ := h
      have hless := burden_handle hv
      have hburden := burden_nextEvent hn
      exact ih v.burden (by omega) h rfl

omit [Store σ] in
theorem now_nextEvent (hnow : s.clock.now ≤ deadline) (h : s.nextEvent? deadline = some (e, t)) :
    t.clock.now ≤ deadline := by
  rcases nextEvent_eq_some h with ⟨es, -, rfl⟩ | ⟨-, c, hc, rfl⟩
  · exact hnow
  · unfold Clock.next? at hc
    split at hc
    · cases hc
    · simp only at hc
      split at hc
      · cases hc
        simp only
        omega
      · cases hc

/-- Waiting up to a deadline and then up to a later one is waiting up to the later one. -/
theorem settle_settle {later : Nat} (hnow : s.clock.now ≤ deadline) (hle : deadline ≤ later) :
    settle deadline s >>= settle later = settle later s := by
  induction hb : s.burden using Nat.strongRecOn generalizing s with
  | ind b ih =>
    cases hn : s.nextEvent? deadline with
    | some p =>
      obtain ⟨e, u⟩ := p
      rw [settle_some hn, settle_some (nextEvent_later hle hn), bind_assoc]
      cases hv : handle u e with
      | error o => rfl
      | ok v =>
        have hclock := now_handle hv
        have hless := burden_handle hv
        have hburden := burden_nextEvent hn
        have hu := now_nextEvent hnow hn
        exact ih v.burden (by omega) (by omega) rfl
    | none =>
      rw [settle_none hn]
      change settle later (s.setTime deadline) = _
      -- the deadline found nothing to do, so the rest goes on from it as it would without it
      have hnext := nextEvent_setTime later hnow hn
      cases hn' : s.nextEvent? later with
      | none =>
        rw [hn'] at hnext
        rw [settle_none hn', settle_none hnext]
        rfl
      | some p =>
        rw [hn'] at hnext
        rw [settle_some hn', settle_some hnext]

/-- A wait may be made in two parts. -/
theorem wait_add (s : Session σ) (a b : Nat) :
    wait s (a + b) = wait s a >>= (wait · b) := by
  have hsplit := settle_settle (s := s) (Nat.le_add_right s.clock.now a)
    (Nat.le_add_right (s.clock.now + a) b)
  rw [wait_eq_settle, ← Nat.add_assoc, ← hsplit, wait_eq_settle]
  cases hu : settle (s.clock.now + a) s with
  | error o => rfl
  | ok u =>
    change settle _ u = settle _ u
    rw [(settle_eq_ok hu).1]

end

end Session

end WindowKeeper
