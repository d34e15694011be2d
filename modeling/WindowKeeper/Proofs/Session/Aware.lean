import WindowKeeper.Proofs.Session.Effects

namespace WindowKeeper

namespace Session

variable {σ : Type} [Store σ] {s t : Session σ}

theorem heeds_next {r : Session σ} {deadline : Nat} {e : Event}
    (hn : s.nextEvent? deadline = some (e, r)) (h : handle r e = .ok t) : s.Heeds t := by
  have hheeds := (does_handle h).heeds
  have hactive : r.active = s.active ∧ r.requests = s.requests ∧ r.window = s.window := by
    obtain ⟨⟨es, c, rfl⟩, -, -⟩ := taken_nextEvent hn
    exact ⟨rfl, rfl, rfl⟩
  obtain ⟨hactive, hrequests, hwindow⟩ := hactive
  refine ⟨fun hs => ?_, fun hs => hheeds.told (by rwa [hrequests, hactive]), fun ht => ?_⟩
  · -- an event of the activity that is taken from the queue makes it known, the others stay
    by_cases he : e.ofActivity
    · exact aware_handle he h
    · apply hheeds.aware
      rcases hs with hs | ⟨f, hf, hactivity⟩
      · left
        rwa [hactive, hwindow]
      · rcases nextEvent_eq_some hn with ⟨es, hq, rfl⟩ | ⟨-, c, -, rfl⟩
        · rw [hq] at hf
          rcases List.mem_cons.mp hf with rfl | hf
          · exact absurd hactivity he
          · exact .inr ⟨f, hf, hactivity⟩
        · exact .inr ⟨f, hf, hactivity⟩
  · rw [← hrequests]
    exact hheeds.silent ht

theorem heeds_turn {x : Turn} (h : s.turn x = .ok t) : s.Heeds t := by
  cases x with
  | act a single =>
    obtain ⟨⟨reply, v⟩, hv, rfl⟩ := map_eq_ok.mp h
    exact (does_act single hv).heeds
  | handle e => exact (does_handle h).heeds
  | next deadline =>
    rcases turn_next_cases h with ⟨-, rfl⟩ | ⟨e, r, hn, hr⟩
    · exact .refl _
    · exact heeds_next hn hr
  | pass now =>
    cases h
    exact heeds_idle rfl rfl rfl rfl
  | shutdown =>
    obtain ⟨⟨result, v⟩, hv, rfl⟩ := map_eq_ok.mp h
    obtain ⟨_, _, _, _, _, rfl⟩ := shutdown_touches hv
    exact heeds_idle rfl rfl rfl rfl

theorem heeds_course {ms : List (Moment σ)} (h : s.Course ms t) : s.Heeds t := by
  induction h with
  | start => exact .refl s
  | turn _ ht ih => exact ih.trans (heeds_turn ht)

/-- Nothing was told of the activity only if the window was never taken to be active. -/
theorem inactive_of_silent {ms : List (Moment σ)}
    (hs : Told s.requests.activity s.active) (h : s.Course ms t) (ht : t.requests.activity = []) :
    ∀ m ∈ ms, m.session.active = false := by
  induction h with
  | start => simp
  | @turn ms v w x hcourse hturn ih =>
    have hv := (heeds_turn hturn).silent ht
    refine List.forall_mem_cons.mpr ⟨?_, ih hv⟩
    rcases (heeds_course hcourse).told hs with ⟨-, hinactive⟩ | ⟨hfirst, -, -⟩
    · exact hinactive
    · rw [hv] at hfirst
      cases hfirst

/-- While no event tells of a change, the window is taken to be active exactly if it has the focus,
can be seen and is not minimized. The changes that were told begin with active, alternate, and end
with what is taken to be so; there are none only while the window never was. -/
theorem course_aware {monitors : List Monitor} {frame : Margins} {store : σ} {files : Tree}
    {config : Config} {ms : List (Moment σ)}
    (h : (start (.onMonitors monitors frame) store files config).Course ms s) :
    ((∀ e ∈ s.queue, e.ofActivity = false) →
      (s.active ↔ s.window.focused ∧ s.window.visible ∧ s.window.state ≠ .minimized)) ∧
    ((s.requests.activity = [] ∧ s.active = false ∧ ∀ m ∈ ms, m.session.active = false) ∨
      (s.requests.activity.head? = some true ∧ s.requests.activity.IsChain (· ≠ ·) ∧
        s.requests.activity.getLast? = some s.active)) := by
  have hheeds := heeds_course h
  have hstart : Told (start (.onMonitors monitors frame) store files config).requests.activity
      (start (.onMonitors monitors frame) store files config).active := .inl ⟨rfl, rfl⟩
  constructor
  · intro hquiet
    rcases hheeds.aware (.inl rfl) with hknown | ⟨e, he, hactivity⟩
    · rw [hknown]
      simp [Window.isActive, and_assoc]
    · rw [hquiet e he] at hactivity
      cases hactivity
  · refine (hheeds.told hstart).imp_left ?_
    rintro ⟨hnone, hinactive⟩
    exact ⟨hnone, hinactive, inactive_of_silent hstart h hnone⟩

/-- A window is shown and then minimized in a tray-only mode, which hides it as well. -/
theorem course_aware_hidden :
    let m : Monitor := ⟨"DP-1", ⟨0, 0, 1920, 1080⟩, ⟨0, 0, 1920, 1080⟩, true⟩
    let r : Session MemoryStore :=
      start (.onMonitors [m] .none) (.ofSettings ⟨.empty, .trayOnly, false⟩) .empty .initial
    ∃ p, r.follow ([.act .attachTray rfl, .act .init rfl, .act .activate rfl] ++
          List.replicate 4 (.next 0) ++ [.act (.setState .minimized) rfl] ++
          List.replicate 3 (.next 0)) = .ok p ∧
      p.2.queue = [] ∧ p.2.requests.activity = [true, false] ∧ ¬ p.2.window.visible ∧
      (p.2.active ↔ p.2.window.focused ∧ p.2.window.visible ∧ p.2.window.state ≠ .minimized) ∧
      p.2.requests.activity.head? = some true ∧ p.2.requests.activity.IsChain (· ≠ ·) ∧
      p.2.requests.activity.getLast? = some p.2.active := by
  intro m r
  obtain ⟨⟨ms, s⟩, hfollow, hqueue, hactivity, hhidden⟩ :
      ∃ p, r.follow ([.act .attachTray rfl, .act .init rfl, .act .activate rfl] ++
          List.replicate 4 (.next 0) ++ [.act (.setState .minimized) rfl] ++
          List.replicate 3 (.next 0)) = .ok p ∧
        p.2.queue = [] ∧ p.2.requests.activity = [true, false] ∧ ¬ p.2.window.visible := by
    decide +kernel
  obtain ⟨hknown, hlog⟩ := course_aware (course_follow hfollow)
  have htold := hlog.resolve_left fun hnone => by
    rw [hnone.1] at hactivity
    cases hactivity
  have hquiet : ∀ e ∈ s.queue, e.ofActivity = false := by
    rw [show s.queue = [] from hqueue]
    exact List.forall_mem_nil _
  exact ⟨_, hfollow, hqueue, hactivity, hhidden, hknown hquiet, htold⟩

end Session

end WindowKeeper
