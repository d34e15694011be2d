import WindowKeeper.Proofs.Script.LastMove
import WindowKeeper.Proofs.Session.Lull

namespace WindowKeeper

/-- A script in which only time passes, and how much of it. -/
inductive Lull : Script → Nat → Prop
  | none : Lull [] 0
  | wait {rest : Script} {m : Nat} (n : Nat) (h : Lull rest m) : Lull (.wait n :: rest) (n + m)

/-- A script that takes the window from one body to another by moves and resizes, all of them
changing the body, with lulls shorter than `quiet` in between. -/
inductive Burst (quiet : Nat) : Rect → Script → Rect → Prop
  | last {body next : Rect} {step : Script.Step} (hstep : step.bodyFrom body = some next)
      (hmoved : next ≠ body) : Burst quiet body [step] next
  | step {body next final : Rect} {step : Script.Step} {lull rest : Script} {n : Nat}
      (hstep : step.bodyFrom body = some next) (hmoved : next ≠ body) (hlull : Lull lull n)
      (hshort : n < quiet) (hrest : Burst quiet next rest final) :
      Burst quiet body (step :: (lull ++ rest)) final

namespace Session

variable {σ : Type}

/-- Nothing is queued and no timer is running. -/
structure Still (s : Session σ) : Prop where
  queue : s.queue = []
  alarms : s.clock.alarms = []
  placement : s.placementTimer.pending = false
  settings : s.settingsTimer.pending = false

/-- No timer is running but that of the placement. -/
def Lone (s : Session σ) : Prop :=
  (s.placementTimer.cancel .placementTimer s.clock).2 = ⟨s.clock.now, []⟩

/-- The session with its window elsewhere, the placement timer having been called at time `now`. -/
def moved (s : Session σ) (body : Rect) (generation : UInt64) (now : Nat) : Session σ :=
  { s with
    window := { s.window with geometry := body }
    placementTimer := ⟨s.placementTimer.delay, generation, true⟩
    clock := ⟨now, [⟨now + s.placementTimer.delay, .placementTimer generation⟩]⟩ }

theorem Still.lone {s : Session σ} (hs : s.Still) : s.Lone := by
  rw [Lone, Timer.cancel, if_neg (by simp [hs.placement]), ← hs.alarms]

theorem lone_moved (s : Session σ) (body : Rect) (g : UInt64) (now time : Nat) :
    ((s.moved body g now).setTime time).Lone := by
  simp [Lone, moved, setTime, Timer.cancel, Clock.unset]

theorem callPlacementTimer_of_lone {s : Session σ} (hs : s.Lone) :
    s.callPlacementTimer =
      s.moved s.window.geometry (s.placementTimer.generation + 1) s.clock.now := by
  unfold callPlacementTimer
  rw [Timer.call_eq, hs]
  rfl

variable [Store σ]

/-- Performs the steps of a script and handles the events that they cause, whether or not the
session quits. -/
def performAll (s : Session σ) : Script → Outcome σ (Session σ)
  | [] => .ok s
  | step :: rest => do performAll (← processQueue (← perform s step)) rest

theorem performAll_append (s : Session σ) (pre rest : Script) :
    s.performAll (pre ++ rest) = s.performAll pre >>= fun t => t.performAll rest := by
  induction pre generalizing s with
  | nil => rfl
  | cons step pre ih =>
    simp only [List.cons_append, performAll, bind_assoc, ih]

/-- A script that is played to an end that is no quit is performed as a whole. -/
theorem performAll_of_play {s t : Session σ} {script : Script} (h : s.play script = .ok t)
    (hrunning : t.quitting = false) : s.performAll script = .ok t := by
  induction script generalizing s with
  | nil => exact h
  | cons step rest ih =>
    simp only [play, bind_eq_ok] at h
    obtain ⟨u, hu, v, hv, h⟩ := h
    simp only [performAll, hu, bind_eq_ok]
    refine ⟨u, rfl, v, hv, ?_⟩
    split at h
    · rename_i hquit
      cases h
      rw [hrunning] at hquit
      cases hquit
    · exact ih h

/-- A session that is left alone goes from one time to a later one, as long as `f` says where it
stands then. -/
theorem performAll_lull {f : Nat → Session σ} {bound time n : Nat} {lull : Script}
    (hqueue : ∀ time, (f time).queue = [])
    (hwait : ∀ time n, time + n ≤ bound → wait (f time) n = .ok (f (time + n)))
    (hlull : Lull lull n) (hbound : time + n ≤ bound) :
    (f time).performAll lull = .ok (f (time + n)) := by
  induction hlull generalizing time with
  | none => rfl
  | @wait rest m n _ ih =>
    have hfirst := hwait time n (by omega)
    have hrest : (f (time + n)).performAll rest = .ok (f (time + n + m)) := ih (by omega)
    rw [performAll, perform, hfirst]
    change (processQueue (f (time + n)) >>= _) = _
    rw [processQueue_nil (hqueue _)]
    change (f (time + n)).performAll rest = _
    rw [hrest, Nat.add_assoc]

/-- Each notification of a move calls the placement timer anew. -/
theorem handleQueued_notices {n : Nat} {es : List Event} {s : Session σ} (hs : s.Lone)
    (hes : ∀ e ∈ es, e = .moved ∨ e = .resized) (hne : es ≠ []) (hn : es.length ≤ n) :
    ∃ g, handleQueued n { s with queue := es } =
      .ok (moved { s with queue := [] } s.window.geometry g s.clock.now) := by
  induction es generalizing s n with
  | nil => exact absurd rfl hne
  | cons e es ih =>
    obtain ⟨n, rfl⟩ : ∃ k, n = k + 1 := ⟨n - 1, by rw [List.length_cons] at hn; omega⟩
    have hcall : handle { s with queue := es } e =
        .ok (callPlacementTimer { s with queue := es }) := by
      rcases hes e (by simp) with rfl | rfl
      · rfl
      · rfl
    have hlone : Lone { s with queue := es } := hs
    rw [callPlacementTimer_of_lone hlone] at hcall
    simp only [handleQueued, hcall]
    by_cases hlast : es = []
    · subst hlast
      refine ⟨s.placementTimer.generation + 1, ?_⟩
      cases n with
      | zero => rfl
      | succ n => rfl
    · let t := s.moved s.window.geometry (s.placementTimer.generation + 1) s.clock.now
      have ht : t.Lone := lone_moved s _ _ _ s.clock.now
      obtain ⟨g, hg⟩ := ih (n := n) ht (fun f hf => hes f (List.mem_cons_of_mem _ hf)) hlast
        (Nat.le_of_succ_le_succ hn)
      exact ⟨g, hg⟩

/-- A move makes the placement timer wait from then on. -/
theorem performAll_move {s : Session σ} {step : Script.Step} {body : Rect} (hqueue : s.queue = [])
    (hlone : s.Lone) (hstep : step.bodyFrom s.window.geometry = some body)
    (hmoved : body ≠ s.window.geometry) :
    ∃ g, s.performAll [step] = .ok (s.moved body g s.clock.now) := by
  let t : Session σ := { s with window := { s.window with geometry := body } }
  have hperform : perform s step = .ok { t with queue := (s.window.setGeometry body).2 } := by
    rw [perform_of_bodyFrom hstep, onWindow, hqueue]
    rfl
  have hsome : (s.window.setGeometry body).2 ≠ [] := fun hnil =>
    hmoved (Window.setGeometry_eq_nil hnil)
  have hturns : (s.window.setGeometry body).2.length ≤
      5 * (s.window.setGeometry body).2.length := by
    omega
  obtain ⟨g, hg⟩ := handleQueued_notices (s := t) hlone (fun e => Window.mem_setGeometry) hsome
    hturns
  refine ⟨g, ?_⟩
  rw [performAll, hperform]
  change (handleQueued _ _ >>= _) = _
  rw [hg, ← hqueue]
  rfl

/-- A lull that is shorter than the delay of the placement timer changes the time only. -/
theorem performAll_pause {s : Session σ} (hqueue : s.queue = []) {lull : Script} {n : Nat}
    (hlull : Lull lull n) (body : Rect) (g : UInt64) (now : Nat)
    (hn : n ≤ s.placementTimer.delay) :
    (s.moved body g now).performAll lull = .ok ((s.moved body g now).setTime (now + n)) := by
  apply performAll_lull (f := (s.moved body g now).setTime) (fun _ => hqueue) _ hlull
    (Nat.add_le_add_left hn now)
  intro time n hearly
  exact wait_early (s := (s.moved body g now).setTime time) hqueue rfl hearly

/-- After a burst the placement timer waits from the last move on. -/
theorem performAll_burst {s : Session σ} {burst : Script} {quiet : Nat} {start body : Rect}
    (h : Burst quiet start burst body) (hquiet : s.placementTimer.delay = quiet)
    (hstart : s.window.geometry = start) (hqueue : s.queue = []) (hlone : s.Lone) :
    ∃ g now, s.performAll burst = .ok (s.moved body g now) := by
  induction h generalizing s with
  | last hstep hmoved =>
    subst hstart
    obtain ⟨g, hg⟩ := performAll_move hqueue hlone hstep hmoved
    exact ⟨g, s.clock.now, hg⟩
  | @step body next final step lull rest n hstep hmoved hlull hshort _ ih =>
    subst hstart hquiet
    obtain ⟨g, hg⟩ := performAll_move hqueue hlone hstep hmoved
    have hpause := performAll_pause hqueue hlull next g s.clock.now (Nat.le_of_lt hshort)
    let t := (s.moved next g s.clock.now).setTime (s.clock.now + n)
    have ht : t.Lone := lone_moved s next g s.clock.now (s.clock.now + n)
    obtain ⟨g', now, hrest⟩ := ih (s := t) rfl rfl hqueue ht
    refine ⟨g', now, ?_⟩
    calc s.performAll (step :: (lull ++ rest))
        = s.performAll [step] >>= fun u => u.performAll (lull ++ rest) :=
          performAll_append s [step] (lull ++ rest)
      _ = (s.moved next g s.clock.now).performAll (lull ++ rest) := by
          rw [hg]
          rfl
      _ = t.performAll rest := by
          rw [performAll_append, hpause]
          rfl
      _ = .ok (s.moved final g' now) := hrest

/-- The store may be of any kind, one that counts its writes as well. -/
theorem performAll_burst_savedOnce {s : Session σ} {burst lull : Script} {body : Rect} {d : Nat}
    (hs : s.Still) (hburst : Burst s.placementTimer.delay s.window.geometry burst body)
    (hlull : Lull lull d) :
    (d ≤ s.placementTimer.delay →
      ∃ t, s.performAll (burst ++ lull) = .ok t ∧ t.store = s.store ∧ t.files = s.files) ∧
    ∀ o, (⟨body, s.window.state, s.window.visible, s.placed, s.columnWidth⟩ : Snapshot).remember
        s.record s.window.monitors s.config.scale s.config.leastSize = .ok o →
      s.placementTimer.delay < d →
      ∃ t, s.performAll (burst ++ lull) = .ok t ∧
        (o = none → t.store = s.store ∧ t.files = s.files) ∧
        ∀ p, o = some p →
          (d ≤ s.placementTimer.delay + s.settingsTimer.delay →
            t.store = Store.requestSave (Store.setPlacement p s.store) ∧ t.files = s.files) ∧
          (s.placementTimer.delay + s.settingsTimer.delay < d →
            (t.store, t.files) =
              (Store.flush (Store.requestSave (Store.setPlacement p s.store)) s.files).2) := by
  obtain ⟨g, now, hmoves⟩ := performAll_burst hburst rfl rfl hs.queue hs.lone
  let b := s.moved body g now
  have hafter : s.performAll (burst ++ lull) = b.performAll lull := by
    rw [performAll_append, hmoves]
    rfl
  rw [hafter]
  constructor
  · intro hd
    exact ⟨_, performAll_pause hs.queue hlull body g now hd, rfl, rfl⟩
  · intro o ho hd
    let due := now + s.placementTimer.delay
    have harmed : b.Armed due := ⟨hs.queue, rfl, rfl, hs.settings⟩
    have hrest : (b.leftAlone due o now).performAll lull = .ok (b.leftAlone due o (now + d)) :=
      performAll_lull (queue_leftAlone harmed) (fun time n _ => wait_leftAlone harmed ho time n)
        hlull (Nat.le_refl _)
    have hstart : b.leftAlone due o now = b := by
      rw [leftAlone, if_neg (Nat.not_lt_of_le (Nat.le_add_right _ _))]
      rfl
    rw [hstart] at hrest
    refine ⟨_, hrest, ?_⟩
    rw [leftAlone, if_pos (Nat.add_lt_add_left hd now)]
    constructor
    · rintro rfl
      exact ⟨rfl, rfl⟩
    · rintro p rfl
      have hflush : (b.landed due).clock.now + (b.landed due).settingsTimer.delay < now + d ↔
          s.placementTimer.delay + s.settingsTimer.delay < d := by
        change now + s.placementTimer.delay + s.settingsTimer.delay < now + d ↔ _
        omega
      rw [Option.elim_some, storedAt]
      constructor
      · intro hearly
        rw [if_neg fun h => Nat.not_lt_of_le hearly (hflush.mp h)]
        exact ⟨rfl, rfl⟩
      · intro hlate
        rw [if_pos (hflush.mpr hlate)]
        rfl

/-- Two moves and a change of size, each within a second of the one before: one write after the
last, and one flush a second later. -/
theorem performAll_burst_savedOnce_counted :
    let m : Monitor := ⟨"DP-1", ⟨0, 0, 1920, 1080⟩, ⟨0, 0, 1920, 1040⟩, true⟩
    let window : Window :=
      { Window.onMonitors [m] .none with geometry := ⟨560, 220, 800, 600⟩, visible := true }
    let s : Session MemoryStore :=
      { start window (.ofSettings .initial) .empty .initial with placed := true }
    let burst : Script := [.move 100 100, .wait 999, .move 250 100, .wait 300, .resize 900 700]
    let p : Placement := ⟨250, 100, 900, 700, 100, false, m.checksum⟩
    (∃ t, s.performAll (burst ++ [.wait 300, .wait 700]) = .ok t ∧ t.store.placementWrites = 0) ∧
    (∃ t, s.performAll (burst ++ [.wait 300, .wait 701]) = .ok t ∧ t.store.placementWrites = 1 ∧
      t.store.settings.placement = p ∧ t.store.flushes = 0) ∧
    ∃ t, s.performAll (burst ++ [.wait 300, .wait 1701]) = .ok t ∧ t.store.placementWrites = 1 ∧
      t.store.settings.placement = p ∧ t.store.flushes = 1 := by
  intro m window s burst p
  have hs : s.Still := ⟨rfl, rfl, rfl, rfl⟩
  have hburst : Burst s.placementTimer.delay s.window.geometry burst ⟨250, 100, 900, 700⟩ := by
    refine .step rfl (by decide) (.wait 999 .none) (by decide) ?_
    refine .step rfl (by decide) (.wait 300 .none) (by decide) ?_
    exact .last rfl (by decide)
  have hlull (n : Nat) : Lull [.wait 300, .wait n] (300 + (n + 0)) := .wait 300 (.wait n .none)
  have ho : (⟨⟨250, 100, 900, 700⟩, s.window.state, s.window.visible, s.placed,
      s.columnWidth⟩ : Snapshot).remember s.record s.window.monitors s.config.scale
      s.config.leastSize = .ok (some p) := rfl
  refine ⟨?_, ?_, ?_⟩
  · obtain ⟨t, ht, hstore, -⟩ := (performAll_burst_savedOnce hs hburst (hlull 700)).1 (by decide)
    exact ⟨t, ht, by rw [hstore]; rfl⟩
  · obtain ⟨t, ht, -, hsome⟩ :=
      (performAll_burst_savedOnce hs hburst (hlull 701)).2 _ ho (by decide)
    obtain ⟨hstore, -⟩ := (hsome p rfl).1 (by decide)
    refine ⟨t, ht, ?_⟩
    rw [hstore]
    exact ⟨rfl, rfl, rfl⟩
  · obtain ⟨t, ht, -, hsome⟩ :=
      (performAll_burst_savedOnce hs hburst (hlull 1701)).2 _ ho (by decide)
    have hstore := congrArg Prod.fst ((hsome p rfl).2 (by decide))
    change t.store = _ at hstore
    refine ⟨t, ht, ?_⟩
    rw [hstore]
    exact ⟨rfl, rfl, rfl⟩

end Session

end WindowKeeper
