import WindowKeeper.Proofs.Session.Runs
import WindowKeeper.Script.Replay
import WindowKeeper.Session.Action

namespace WindowKeeper

/-- Whether an action is a single step in which nothing is written. -/
def Action.isStep : Action → Bool
  | .process => false
  | .handle _ => false
  | .shutdown => false
  | .wait _ => false
  | .run _ => false
  | _ => true

/-- What can happen to a session in one go. -/
inductive Turn
  | act (a : Action) (single : a.isStep)
  | handle (e : Event)
  /-- The next event before a deadline is handled, be it from the queue or of an alarm. -/
  | next (deadline : Nat)
  | pass (now : Nat)
  | shutdown

/-- A session, and what happens to it. -/
structure Moment (σ : Type) where
  session : Session σ
  turn : Turn

/-- The event that is handled at a moment. -/
def Moment.event? {σ : Type} (m : Moment σ) : Option Event :=
  match m.turn with
  | .handle e => some e
  | .next deadline => (m.session.nextEvent? deadline).map (·.1)
  | _ => none

namespace Session

theorem of_answered {σ : Type} {x : Outcome σ (Session σ)} {answer reply : Reply} {t : Session σ}
    (h : ((answer, ·) <$> x) = .ok (reply, t)) : x = .ok t := by
  obtain ⟨u, hu, h⟩ := map_eq_ok.mp h
  cases h
  exact hu

theorem of_answered_result {σ α : Type} {x : Outcome σ (α × Session σ)} {answer : α → Reply}
    {reply : Reply} {t : Session σ} (h : (Prod.map answer id <$> x) = .ok (reply, t)) :
    ∃ a, x = .ok (a, t) := by
  obtain ⟨⟨a, u⟩, hu, h⟩ := map_eq_ok.mp h
  cases h
  exact ⟨a, hu⟩

variable {σ : Type} [Store σ]

def turn (s : Session σ) : Turn → Outcome σ (Session σ)
  | .act a _ => Prod.snd <$> act s a
  | .handle e => handle s e
  | .next deadline =>
    match s.nextEvent? deadline with
    | some (e, s) => handle s e
    | none => .ok s
  | .pass now => .ok (s.setTime now)
  | .shutdown => Prod.snd <$> shutdown s

/-- The moments through which a session leads to a later one, the latest first. -/
inductive Course (s : Session σ) : List (Moment σ) → Session σ → Prop
  | start : Course s [] s
  | turn {ms : List (Moment σ)} {t u : Session σ} {x : Turn} (h : Course s ms t)
      (ht : t.turn x = .ok u) : Course s (⟨t, x⟩ :: ms) u

theorem Course.trans {s t u : Session σ} {ms ns : List (Moment σ)} (h : s.Course ms t)
    (h' : t.Course ns u) : s.Course (ns ++ ms) u := by
  induction h' with
  | start => exact h
  | turn _ ht ih => exact ih.turn ht

/-- Takes turns one after another. Gives the moments of the course as well. -/
def follow (s : Session σ) : List Turn → Outcome σ (List (Moment σ) × Session σ)
  | [] => .ok ([], s)
  | x :: xs => do
    let t ← s.turn x
    let (ms, u) ← follow t xs
    return (ms ++ [⟨s, x⟩], u)

theorem course_follow {s t : Session σ} {xs : List Turn} {ms : List (Moment σ)}
    (h : s.follow xs = .ok (ms, t)) : s.Course ms t := by
  induction xs generalizing s ms with
  | nil =>
    cases h
    exact .start
  | cons x xs ih =>
    simp only [follow, bind_eq_ok, pure_eq_ok] at h
    obtain ⟨u, hu, ⟨ns, v⟩, hv, h⟩ := h
    cases h
    have hfirst : s.Course [⟨s, x⟩] u := Course.start.turn hu
    exact hfirst.trans (ih hv)

/-- A later session to which moments of one kind lead. -/
def Follows (P : Moment σ → Prop) (s t : Session σ) : Prop :=
  ∃ ms, s.Course ms t ∧ ∀ m ∈ ms, P m

variable {P : Moment σ → Prop} {s t u : Session σ}

theorem Follows.refl : Follows P s s := ⟨[], .start, by simp⟩

theorem Follows.turn {x : Turn} (h : Follows P s t) (hx : P ⟨t, x⟩) (ht : t.turn x = .ok u) :
    Follows P s u := by
  obtain ⟨ms, hms, hP⟩ := h
  exact ⟨_, hms.turn ht, by simpa [hx] using hP⟩

theorem Follows.trans (h : Follows P s t) (h' : Follows P t u) : Follows P s u := by
  obtain ⟨ms, hms, hP⟩ := h
  obtain ⟨ns, hns, hP'⟩ := h'
  refine ⟨_, hms.trans hns, ?_⟩
  intro m hm
  rcases List.mem_append.mp hm with hm | hm
  · exact hP' m hm
  · exact hP m hm

theorem turn_next {deadline : Nat} {e : Event} (hn : s.nextEvent? deadline = some (e, t)) :
    s.turn (.next deadline) = handle t e := by
  rw [Session.turn, hn]

/-- Either no event is there before the deadline, or the next one is handled. -/
theorem turn_next_cases {deadline : Nat} (h : s.turn (.next deadline) = .ok t) :
    s.nextEvent? deadline = none ∧ t = s ∨
      ∃ e r, s.nextEvent? deadline = some (e, r) ∧ handle r e = .ok t := by
  cases hn : s.nextEvent? deadline with
  | none =>
    rw [turn, hn] at h
    cases h
    exact .inl ⟨rfl, rfl⟩
  | some p => exact .inr ⟨p.1, p.2, rfl, (turn_next hn).symm.trans h⟩

omit [Store σ] in
theorem event?_next {deadline : Nat} {e : Event} (hn : s.nextEvent? deadline = some (e, t)) :
    (Moment.mk s (.next deadline)).event? = some e := by
  simp only [Moment.event?, hn, Option.map_some]

omit [Store σ] in
theorem nextEvent?_queued {e : Event} {es : List Event} (hq : s.queue = e :: es) (deadline : Nat) :
    s.nextEvent? deadline = some (e, { s with queue := es }) := by
  simp only [nextEvent?, hq]

theorem follows_handleQueued {n : Nat} (hnext : ∀ r deadline, P ⟨r, .next deadline⟩)
    (h : handleQueued n s = .ok t) : Follows P s t := by
  refine handleQueued_keeps (P := Follows P s) h .refl ?_
  intro r u e es hr hq hu
  exact hr.turn (hnext r 0) ((turn_next (nextEvent?_queued hq 0)).trans hu)

theorem follows_waitUntil {deadline n : Nat} (hnext : ∀ r, P ⟨r, .next deadline⟩)
    (hpass : ∀ r, P ⟨r, .pass deadline⟩) (h : waitUntil deadline n s = .ok t) : Follows P s t :=
  waitUntil_keeps (P := Follows P s) h .refl
    (fun hr hn hv => hr.turn (hnext _) ((turn_next hn).trans hv)) fun hr => hr.turn (hpass _) rfl

theorem turn_shutdown {r : Except Settings.SaveError Unit} (h : shutdown s = .ok (r, t)) :
    s.turn .shutdown = .ok t := by
  rw [Session.turn, h]
  rfl

theorem turn_act {a : Action} {reply : Reply} (single : a.isStep) (h : act s a = .ok (reply, t)) :
    s.turn (.act a single) = .ok t := by
  rw [Session.turn, h]
  rfl

theorem turn_answered {a : Action} {x : Outcome σ (Session σ)} (single : a.isStep)
    (ha : act s a = ((.nothing, ·) <$> x)) (h : x = .ok t) : s.turn (.act a single) = .ok t := by
  rw [Session.turn, ha, h]
  rfl

/-- Every action is a course, whether or not it is a single step. No other action is performed in
it. -/
theorem follows_act {a : Action} {reply : Reply}
    (hP : ∀ r x, (∀ b single, x = .act b single → b = a) → P ⟨r, x⟩)
    (h : act s a = .ok (reply, t)) : Follows P s t := by
  have hnext (r : Session σ) (deadline : Nat) : P ⟨r, .next deadline⟩ := hP r _ nofun
  have hpass (r : Session σ) (now : Nat) : P ⟨r, .pass now⟩ := hP r _ nofun
  have hshutdown (r : Session σ) : P ⟨r, .shutdown⟩ := hP r _ nofun
  by_cases single : a.isStep
  · refine Follows.refl.turn (hP s (.act a single) ?_) (turn_act single h)
    rintro b _ hb
    cases hb
    rfl
  · cases a with
    | process => exact follows_handleQueued hnext (of_answered h)
    | handle e => exact Follows.refl.turn (hP s (.handle e) nofun) (of_answered h)
    | shutdown =>
      obtain ⟨r, h⟩ := of_answered_result h
      exact Follows.refl.turn (hshutdown s) (turn_shutdown h)
    | wait ms => exact follows_waitUntil (fun r => hnext r _) (fun r => hpass r _) (of_answered h)
    | run ms =>
      rw [act, map_eq_ok] at h
      obtain ⟨⟨r, u⟩, hu, h⟩ := h
      cases h
      exact runUntil_keeps (P := Follows P s) hu .refl
        (fun hr hn hv => hr.turn (hnext _ _) ((turn_next hn).trans hv))
        (fun hr => hr.turn (hpass _ _) rfl)
        fun hr hu => hr.turn (hshutdown _) (turn_shutdown hu)
    | _ => exact absurd rfl single

end Session

end WindowKeeper
