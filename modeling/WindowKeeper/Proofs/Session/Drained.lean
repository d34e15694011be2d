import WindowKeeper.Proofs.Session.Queue

namespace WindowKeeper.Session

variable {σ : Type} [Store σ]

/-- The session handles `n` events from the queue, one after another, until none is left or one of
them halts it; there is no other end. -/
inductive Drains : Session σ → Nat → Outcome σ (Session σ) → Prop
  | done {s : Session σ} (hqueue : s.queue = []) : Drains s 0 (.ok s)
  | halt {s : Session σ} {e : Event} {es : List Event} {o : Halt σ} (hqueue : s.queue = e :: es)
      (hhandle : handle { s with queue := es } e = .error o) : Drains s 1 (.error o)
  | step {s t : Session σ} {e : Event} {es : List Event} {n : Nat} {x : Outcome σ (Session σ)}
      (hqueue : s.queue = e :: es) (hhandle : handle { s with queue := es } e = .ok t)
      (hrest : Drains t n x) : Drains s (n + 1) x

variable {s t : Session σ} {m n : Nat} {x y : Outcome σ (Session σ)}

theorem Drains.unique (hm : s.Drains m y) (hn : s.Drains n x) : m = n ∧ y = x := by
  induction hm generalizing n with
  | done hqueue =>
    cases hn with
    | done => exact ⟨rfl, rfl⟩
    | halt hqueue' | step hqueue' => cases hqueue.symm.trans hqueue'
  | halt hqueue hhandle =>
    cases hn with
    | done hqueue' => cases hqueue.symm.trans hqueue'
    | halt hqueue' hhandle' =>
      cases hqueue.symm.trans hqueue'
      cases hhandle.symm.trans hhandle'
      exact ⟨rfl, rfl⟩
    | step hqueue' hhandle' =>
      cases hqueue.symm.trans hqueue'
      cases hhandle.symm.trans hhandle'
  | step hqueue hhandle _ ih =>
    cases hn with
    | done hqueue' => cases hqueue.symm.trans hqueue'
    | halt hqueue' hhandle' =>
      cases hqueue.symm.trans hqueue'
      cases hhandle.symm.trans hhandle'
    | step hqueue' hhandle' hrest =>
      cases hqueue.symm.trans hqueue'
      cases hhandle.symm.trans hhandle'
      obtain ⟨rfl, rfl⟩ := ih hrest
      exact ⟨rfl, rfl⟩

/-- Only an empty queue ends a run without halt. -/
theorem Drains.queue (h : s.Drains n (.ok t)) : t.queue = [] := by
  generalize hx : (Except.ok t : Outcome σ (Session σ)) = x at h
  induction h with
  | done hqueue =>
    cases hx
    exact hqueue
  | halt => cases hx
  | step _ _ _ ih => exact ih hx

theorem handleQueued_cons {e : Event} {es : List Event} (hqueue : s.queue = e :: es) (n : Nat) :
    handleQueued (n + 1) s = handle { s with queue := es } e >>= handleQueued n := by
  rw [handleQueued, hqueue]

/-- The load of the queue bounds the events that are handled, and as many turns as that are enough
to handle them all. -/
theorem handleQueued_drains (hn : (s.queue.map Event.load).sum ≤ n) :
    ∃ k ≤ (s.queue.map Event.load).sum, s.Drains k (handleQueued n s) := by
  induction n generalizing s with
  | zero =>
    cases hq : s.queue with
    | nil => exact ⟨0, Nat.le_refl 0, .done hq⟩
    | cons e es =>
      have hpos := e.load_pos
      rw [hq, List.map_cons, List.sum_cons] at hn
      omega
  | succ n ih =>
    cases hq : s.queue with
    | nil =>
      rw [handleQueued, hq]
      exact ⟨0, Nat.le_refl 0, .done hq⟩
    | cons e es =>
      have hpos := e.load_pos
      rw [hq, List.map_cons, List.sum_cons] at hn
      rw [handleQueued_cons hq, List.map_cons, List.sum_cons]
      cases hhandle : handle { s with queue := es } e with
      | error o => exact ⟨1, by omega, .halt hq hhandle⟩
      | ok t =>
        -- each event takes more load off than it adds
        have hload : (t.queue.map Event.load).sum < (es.map Event.load).sum + e.load :=
          load_handle hhandle
        obtain ⟨k, hk, hrest⟩ := @ih t (by omega)
        exact ⟨k + 1, by omega, .step hq hhandle hrest⟩

/-- Processing the queue is handling events until none is left: whatever is queued, and whatever
the handlers queue, this comes to its one end after at most five times as many events as were there
at first, and unless a coordinate overflows it ends with an empty queue. -/
theorem processQueue_drains (s : Session σ) :
    ∃ n ≤ 5 * s.queue.length, s.Drains n (processQueue s) ∧
      (∀ m x, s.Drains m x → m = n ∧ x = processQueue s) ∧
      ∀ t, processQueue s = .ok t → t.queue = [] := by
  obtain ⟨n, hn, hdrains⟩ := handleQueued_drains (load_le s.queue)
  have hlength := load_le s.queue
  refine ⟨n, by omega, hdrains, fun m x hx => hx.unique hdrains, fun t ht => ?_⟩
  have hend : s.Drains n (.ok t) := by
    rw [← ht]
    exact hdrains
  exact hend.queue

/-- Five events for one: a double click on the tray icon shows a minimized window, which becomes
maximized as it was before it was hidden. -/
example :
    let window : Window := { Window.onMonitors [] .none with state := .minimized }
    let s : Session MemoryStore :=
      { start window (.ofSettings .initial) .empty .initial with
        maximizedBeforeHide := true
        queue := [.trayActivated .doubleClick] }
    ∃ t, handleQueued 4 s = .ok t ∧ t.queue = [.stateChanged .maximized] := by
  decide +kernel

end WindowKeeper.Session
