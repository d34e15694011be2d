import WindowKeeper.Proofs.Session.Steady

namespace WindowKeeper

open WindowKeeper.Core (Steady)

namespace Session

variable {σ : Type} [Store σ]

/-- Waits like `waitUntil`, but stops before the event that makes the session save its placement.
Tells whether there was one. -/
def waitToSave (deadline : Nat) : Nat → Session σ → Outcome σ (Bool × Session σ)
  | 0, s => .ok (false, s.setTime deadline)
  | n + 1, s =>
    match s.nextEvent? deadline with
    | none => .ok (false, s.setTime deadline)
    | some (e, s) =>
      if s.settles e then .ok (true, s) else do waitToSave deadline n (← handle s e)

def performToSave (s : Session σ) : Script.Step → Outcome σ (Bool × Session σ)
  | .wait ms => waitToSave (s.clock.now + ms) s.turns s
  | step => (false, ·) <$> perform s step

/-- The session as it stands when it saves the placement that waits for rest: during the script,
or else after it. -/
def atSave (s : Session σ) : Script → Outcome σ (Session σ)
  | [] => .ok s
  | step :: rest => do
    let (saving, s) ← performToSave s step
    if saving then return s
    let s ← processQueue s
    if s.quitting then return s
    atSave s rest

end Session

namespace Script.Step

/-- The steps that neither move the window nor change its state, its column or the monitors. -/
def keepsBody : Script.Step → Bool
  | .move _ _ => false
  | .resize _ _ => false
  | .state _ => false
  | .monitors _ => false
  | .rightColumn _ => false
  | _ => true

end Script.Step

namespace Session

variable {σ : Type} [Store σ] {body : Rect} {ms : List Monitor} {config : Config}

theorem steady_handleQueued {n : Nat} {s t : Session σ} (hs : s.core.Holding body ms config)
    (h : handleQueued n s = .ok t) : Steady body ms config s.core t.core :=
  handleQueued_keeps (P := fun t => Steady body ms config s.core t.core) h (.refl hs)
    fun hsteady hq hu => hsteady.trans (steady_queued hq hsteady.holding hu)

/-- The next event comes from the queue and moves nothing, or it is that of a timer. -/
theorem holding_nextEvent {s u : Session σ} {deadline : Nat} {e : Event}
    (hs : s.core.Holding body ms config) (h : s.nextEvent? deadline = some (e, u)) :
    (u.settles e = false ∧ ∀ t, handle u e = .ok t → Steady body ms config s.core t.core) ∨
      e.isTimer ∧ Steady body ms config s.core u.core := by
  rcases nextEvent_eq_some h with ⟨es, hq, rfl⟩ | ⟨-, c, hc, rfl⟩
  · refine .inl ⟨?_, fun t ht => steady_queued hq hs ht⟩
    obtain ⟨b, hb, -⟩ := hs.calm
    have hqueue : List.foldlM Event.waking? s.maximizedBeforeHide (e :: es) = some b := hq ▸ hb
    cases e with
    | placementTimer g => cases hqueue
    | _ => rfl
  · obtain ⟨⟨a, ha, rfl⟩, hnew⟩ := Clock.next?_eq_some hc
    refine .inr ⟨hs.timed a ha, { hs with timed := fun b hb => hs.timed b (hnew b hb) }, rfl, rfl⟩

variable [LawfulStore σ]

theorem steady_waitUntil {deadline n : Nat} {s t : Session σ}
    (hs : s.core.Holding body ms config) (hidle : s.placementTimer.pending = false)
    (h : waitUntil deadline n s = .ok t) : Steady body ms config s.core t.core := by
  refine waitUntil_keeps (P := fun t => Steady body ms config s.core t.core) h (.refl hs) ?_
    fun hsteady => ⟨{ hsteady.holding with }, hsteady.placementTimer, hsteady.record⟩
  intro r u v e hr hn hv
  rcases holding_nextEvent hr.holding hn with ⟨-, hsteady⟩ | ⟨htimer, hu⟩
  · exact hr.trans (hsteady v hv)
  · have hru := hr.trans hu
    have hidle' : u.placementTimer.pending = false :=
      (congrArg Timer.pending hru.placementTimer).trans hidle
    exact hru.trans (steady_alarm htimer (settles_of_idle hidle' e) hu.holding hv)

/-- What a session saved is what it would save in `v`, and nothing waits to be saved any more. -/
structure SavedAt (body : Rect) (ms : List Monitor) (config : Config) (v t : Session σ) : Prop where
  holding : t.core.Holding body ms config
  idle : t.placementTimer.pending = false
  record : v.savedRecord = .ok t.record

omit [LawfulStore σ] in
theorem SavedAt.steady {v t w : Session σ} (h : SavedAt body ms config v t)
    (hw : Steady body ms config t.core w.core) : SavedAt body ms config v w where
  holding := hw.holding
  idle := (congrArg Timer.pending hw.placementTimer).trans h.idle
  record := h.record.trans (congrArg Except.ok hw.record.symm)

theorem waitUntil_toSave {deadline n : Nat} {s t : Session σ}
    (hs : s.core.Holding body ms config) (h : waitUntil deadline n s = .ok t) :
    ∃ b v, waitToSave deadline n s = .ok (b, v) ∧ Steady body ms config s.core v.core ∧
      if b then SavedAt body ms config v t else v = t := by
  induction n generalizing s with
  | zero =>
    cases h
    exact ⟨false, _, rfl, ⟨{ hs with }, rfl, rfl⟩, rfl⟩
  | succ n ih =>
    rw [waitUntil] at h
    rw [waitToSave]
    cases hn : s.nextEvent? deadline with
    | none =>
      rw [hn] at h
      cases h
      exact ⟨false, _, rfl, ⟨{ hs with }, rfl, rfl⟩, rfl⟩
    | some p =>
      obtain ⟨e, u⟩ := p
      simp only [hn, bind_eq_ok] at h
      obtain ⟨v, hv, h⟩ := h
      simp only
      by_cases hsettles : u.settles e
      · rcases holding_nextEvent hs hn with ⟨hno, -⟩ | ⟨-, hu⟩
        · simp [hsettles] at hno
        · obtain ⟨hvholding, hvidle, hvrecord⟩ := saved_of_settles hsettles hu.holding hv
          have hsaved : SavedAt body ms config u v := ⟨hvholding, hvidle, hvrecord⟩
          rw [if_pos hsettles]
          exact ⟨true, u, rfl, hu, hsaved.steady (steady_waitUntil hvholding hvidle h)⟩
      · have hsv : Steady body ms config s.core v.core := by
          rcases holding_nextEvent hs hn with ⟨-, hsteady⟩ | ⟨htimer, hu⟩
          · exact hsteady v hv
          · exact hu.trans (steady_alarm htimer (by simpa using hsettles) hu.holding hv)
        obtain ⟨b, w, hw, hsteady, hcase⟩ := ih hsv.holding h
        rw [if_neg hsettles, hv]
        exact ⟨b, w, hw, hsv.trans hsteady, hcase⟩

end Session

end WindowKeeper
