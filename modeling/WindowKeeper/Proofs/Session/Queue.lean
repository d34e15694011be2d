import Mathlib.Algebra.Order.BigOperators.Group.List
import Mathlib.Algebra.GroupWithZero.Nat
import Mathlib.Algebra.Order.Group.Nat
import Mathlib.Algebra.Group.Action.Defs
import WindowKeeper.Proofs.Session.Caused

namespace WindowKeeper

def Event.load : Event → Nat
  | .stateChanged .minimized => 3
  | .visibleChanged true => 2
  | .trayActivated _ => 5
  | .workModeChanged _ => 5
  | .closeRequested => 3
  | _ => 1

theorem Event.load_pos (e : Event) : 0 < e.load := by
  unfold load
  split <;> decide

theorem Event.load_le (e : Event) : e.load ≤ 5 := by
  unfold load
  split <;> decide

namespace Session

theorem load_le (es : List Event) : (es.map Event.load).sum ≤ 5 * es.length := by
  have hsum := List.sum_le_card_nsmul (es.map Event.load) 5
    (List.forall_mem_map.mpr fun e _ => e.load_le)
  rw [List.length_map, smul_eq_mul] at hsum
  omega

theorem load_sublist {es fs : List Event} (h : es.Sublist fs) :
    (es.map Event.load).sum ≤ (fs.map Event.load).sum :=
  (h.map Event.load).sum_le_sum fun _ _ => Nat.zero_le _

/-- An event has a larger load than what it causes. -/
theorem load_causes {e : Event} {es : List Event} (h : e.Causes es) :
    (es.map Event.load).sum < e.load := by
  cases h with
  | nothing => exact e.load_pos
  | hidden he hes =>
    have hload := load_sublist hes
    have hlarger : 2 < e.load := by
      cases e with
      | stateChanged st => cases st <;> first | decide | cases he
      | trayActivated | closeRequested => simp [Event.load]
      | _ => cases he
    exact Nat.lt_of_le_of_lt hload hlarger
  | @shown _ st _ he hst hes =>
    have hload := load_sublist hes
    have hall :
        ([.stateChanged st, .visibleChanged true, .activeChanged].map Event.load).sum = 4 := by
      cases st with
      | minimized => exact absurd rfl hst
      | _ => rfl
    have hlarger : 4 < e.load := by
      cases e with
      | trayActivated | workModeChanged => simp [Event.load]
      | _ => cases he
    omega
  | maximized hes => exact Nat.lt_of_le_of_lt (load_sublist hes) (by decide)

variable {σ : Type} [Store σ]

/-- Handling an event takes more load off than it adds. -/
theorem load_handle {s t : Session σ} {e : Event} (h : handle s e = .ok t) :
    (t.queue.map Event.load).sum < (s.queue.map Event.load).sum + e.load := by
  obtain ⟨es, hcauses, hqueue⟩ := (reacts_handle h).queue
  have hload := load_causes hcauses
  have hqueue : t.queue = s.queue ++ es := hqueue
  rw [hqueue, List.map_append, List.sum_append]
  omega

theorem handleQueued_queue {n : Nat} {s t : Session σ} (hn : (s.queue.map Event.load).sum ≤ n)
    (h : handleQueued n s = .ok t) : t.queue = [] := by
  induction n generalizing s with
  | zero =>
    cases hq : s.queue with
    | nil =>
      cases h
      exact hq
    | cons e es =>
      have hpos := e.load_pos
      rw [hq, List.map_cons, List.sum_cons] at hn
      omega
  | succ n ih =>
    rw [handleQueued] at h
    cases hq : s.queue with
    | nil =>
      rw [hq] at h
      cases h
      exact hq
    | cons e es =>
      simp only [hq, bind_eq_ok] at h
      obtain ⟨r, hr, h⟩ := h
      have hload := load_handle hr
      rw [hq, List.map_cons, List.sum_cons] at hn
      have hr' : (r.queue.map Event.load).sum ≤ n := by
        simp only at hload
        omega
      exact ih hr' h

/-- Processing the queue leaves nothing in it. -/
theorem processQueue_queue {s t : Session σ} (h : processQueue s = .ok t) : t.queue = [] :=
  handleQueued_queue (load_le s.queue) h

end Session

end WindowKeeper
