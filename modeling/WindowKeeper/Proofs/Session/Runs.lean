import WindowKeeper.Proofs.Outcome
import WindowKeeper.Script.Replay

namespace WindowKeeper.Session

variable {σ : Type}

/-- The next event is the first of the queue, or that of the next alarm if the queue is empty. -/
theorem nextEvent_eq_some {s t : Session σ} {deadline : Nat} {e : Event}
    (h : s.nextEvent? deadline = some (e, t)) :
    (∃ es, s.queue = e :: es ∧ t = { s with queue := es }) ∨
      s.queue = [] ∧ ∃ c, s.clock.next? deadline = some (e, c) ∧ t = { s with clock := c } := by
  unfold nextEvent? at h
  cases hq : s.queue with
  | cons e' es =>
    rw [hq] at h
    cases h
    exact .inl ⟨es, rfl, rfl⟩
  | nil =>
    simp only [hq, Option.map_eq_some_iff] at h
    obtain ⟨⟨e', c⟩, hc, h⟩ := h
    cases h
    exact .inr ⟨rfl, c, hc, rfl⟩

variable [Store σ] {P : Session σ → Prop}

theorem handleQueued_keeps {n : Nat} {s t : Session σ} (h : handleQueued n s = .ok t) (hs : P s)
    (hstep : ∀ {s u : Session σ} {e : Event} {es : List Event}, P s → s.queue = e :: es →
      handle { s with queue := es } e = .ok u → P u) : P t := by
  induction n generalizing s with
  | zero =>
    cases h
    exact hs
  | succ n ih =>
    rw [handleQueued] at h
    cases hq : s.queue with
    | nil =>
      rw [hq] at h
      cases h
      exact hs
    | cons e es =>
      simp only [hq, bind_eq_ok] at h
      obtain ⟨u, hu, h⟩ := h
      exact ih h (hstep hs hq hu)

variable {deadline : Nat}

theorem waitUntil_keeps {n : Nat} {s t : Session σ} (h : waitUntil deadline n s = .ok t) (hs : P s)
    (hstep : ∀ {s u v : Session σ} {e : Event}, P s → s.nextEvent? deadline = some (e, u) →
      handle u e = .ok v → P v)
    (hpass : ∀ {s : Session σ}, P s → P (s.setTime deadline)) : P t := by
  induction n generalizing s with
  | zero =>
    cases h
    exact hpass hs
  | succ n ih =>
    rw [waitUntil] at h
    cases hn : s.nextEvent? deadline with
    | none =>
      rw [hn] at h
      cases h
      exact hpass hs
    | some p =>
      obtain ⟨e, u⟩ := p
      simp only [hn, bind_eq_ok] at h
      obtain ⟨v, hv, h⟩ := h
      exact ih h (hstep hs hn hv)

/-- A run until the session quits ends with its shutdown, or without it at the deadline. -/
theorem runUntil_keeps {n : Nat} {s t : Session σ} {r : Option (Except Settings.SaveError Unit)}
    (h : runUntil deadline n s = .ok (r, t)) (hs : P s)
    (hstep : ∀ {s u v : Session σ} {e : Event}, P s → s.nextEvent? deadline = some (e, u) →
      handle u e = .ok v → P v)
    (hpass : ∀ {s : Session σ}, P s → P (s.setTime deadline))
    (hstop : ∀ {s u : Session σ} {r : Except Settings.SaveError Unit}, P s →
      shutdown s = .ok (r, u) → P u) : P t := by
  induction n generalizing s with
  | zero =>
    unfold runUntil at h
    split at h
    · simp only [bind_eq_ok, pure_eq_ok] at h
      obtain ⟨⟨r', u⟩, hu, h⟩ := h
      cases h
      exact hstop hs hu
    · cases h
      exact hpass hs
  | succ n ih =>
    unfold runUntil at h
    split at h
    · simp only [bind_eq_ok, pure_eq_ok] at h
      obtain ⟨⟨r', u⟩, hu, h⟩ := h
      cases h
      exact hstop hs hu
    · cases hn : s.nextEvent? deadline with
      | none =>
        rw [hn] at h
        cases h
        exact hpass hs
      | some p =>
        obtain ⟨e, u⟩ := p
        simp only [hn, bind_eq_ok] at h
        obtain ⟨v, hv, h⟩ := h
        exact ih h (hstep hs hn hv)

/-- What holds whenever a script has come to rest is kept by all its steps, if something is that
each of them leads to and that comes to rest. -/
theorem play_keeps {Q : Session σ → Prop} {script : Script} {s t : Session σ}
    (h : s.play script = .ok t) (hs : P s)
    (hperform : ∀ {s u : Session σ} {step : Script.Step}, step ∈ script → P s →
      perform s step = .ok u → Q u)
    (hprocess : ∀ {s u : Session σ}, Q s → processQueue s = .ok u → P u) : P t := by
  induction script generalizing s with
  | nil =>
    cases h
    exact hs
  | cons step rest ih =>
    simp only [play, bind_eq_ok] at h
    obtain ⟨u, hu, v, hv, h⟩ := h
    have hrest : P v := hprocess (hperform List.mem_cons_self hs hu) hv
    split at h
    · cases h
      exact hrest
    · exact ih h hrest fun hstep => hperform (List.mem_cons_of_mem _ hstep)

end WindowKeeper.Session
