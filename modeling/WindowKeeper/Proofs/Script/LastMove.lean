import WindowKeeper.Proofs.Session.ToSave

namespace WindowKeeper

/-- The body that a step gives a window with a given one, if the step is about it. -/
def Script.Step.bodyFrom (r : Rect) : Script.Step → Option Rect
  | .move x y => some { r with x := x, y := y }
  | .resize w h => some { r with w := w, h := h }
  | _ => none

namespace Session

open WindowKeeper.Core (Steady)

variable {σ : Type} [Store σ]

theorem play_append {s u : Session σ} {pre rest : Script} (hu : s.play pre = .ok u)
    (hrunning : u.quitting = false) : s.play (pre ++ rest) = u.play rest := by
  induction pre generalizing s with
  | nil =>
    cases hu
    rfl
  | cons step pre ih =>
    simp only [play, bind_eq_ok] at hu
    obtain ⟨v, hv, w, hw, hu⟩ := hu
    rw [List.cons_append, play, hv]
    change (processQueue v >>= _) = _
    rw [hw]
    change (if w.quitting then _ else _) = _
    split at hu
    · rename_i hquit
      cases hu
      rw [hrunning] at hquit
      cases hquit
    · rename_i hquit
      rw [if_neg hquit]
      exact ih hu

/-- Handling the notifications of a move leaves the placement timer waiting. -/
theorem handleQueued_moved {n : Nat} {s t : Session σ}
    (hqueue : ∀ e ∈ s.queue, e = .moved ∨ e = .resized)
    (hpending : s.queue = [] → s.placementTimer.pending) (hn : s.queue.length ≤ n)
    (h : handleQueued n s = .ok t) :
    t.placementTimer.pending ∧ ∃ r c,
      t.core = { s.core with placementTimer := r, clock := c, queue := [] } := by
  induction n generalizing s with
  | zero =>
    have hst : s = t := Except.ok.inj h
    subst hst
    have hnil : s.queue = [] := List.eq_nil_of_length_eq_zero (Nat.le_zero.mp hn)
    refine ⟨hpending hnil, s.placementTimer, s.clock, ?_⟩
    rw [← hnil]
    rfl
  | succ n ih =>
    rw [handleQueued] at h
    cases hq : s.queue with
    | nil =>
      rw [hq] at h
      have hst : s = t := Except.ok.inj h
      subst hst
      refine ⟨hpending hq, s.placementTimer, s.clock, ?_⟩
      rw [← hq]
      rfl
    | cons e es =>
      rw [hq] at hqueue hn
      simp only [hq, bind_eq_ok] at h
      obtain ⟨v, hv, h⟩ := h
      have hcall : v = callPlacementTimer { s with queue := es } := by
        rcases hqueue e (by simp) with rfl | rfl <;> cases hv <;> rfl
      subst hcall
      obtain ⟨hp, r, c, hcore⟩ := ih (fun e he => hqueue e (by exact List.mem_cons_of_mem _ he))
        (fun _ => rfl) (Nat.le_of_succ_le_succ hn) h
      exact ⟨hp, r, c, hcore⟩

theorem perform_of_bodyFrom {s : Session σ} {step : Script.Step} {body : Rect}
    (hstep : step.bodyFrom s.window.geometry = some body) :
    perform s step = .ok (s.onWindow (Window.setGeometry body)) := by
  cases step with
  | move x y =>
    cases hstep
    rfl
  | resize w h =>
    cases hstep
    rfl
  | _ => cases hstep

/-- After a move has been handled the session waits to save the new body. -/
theorem holding_of_move {u w : Session σ} {step : Script.Step} {body : Rect} (hu : u.AtRest)
    (hplaced : u.placed) (hvisible : u.window.visible) (hstate : u.window.state = .normal)
    (hcolumn : u.rightColumn = none) (hrecord : u.record.maximized = false)
    (hstep : step.bodyFrom u.window.geometry = some body) (hmoved : body ≠ u.window.geometry)
    (h : (perform u step >>= processQueue) = .ok w) :
    w.core.Holding body u.window.monitors u.config ∧ w.placementTimer.pending ∧
      w.record = u.record ∧ w.quitting = u.quitting := by
  rw [bind_eq_ok] at h
  obtain ⟨v, hv, h⟩ := h
  have htimed := timed_perform hu.timed hv
  have hrest := atRest_processQueue htimed h
  cases (perform_of_bodyFrom hstep).symm.trans hv
  have hqueue : (u.onWindow (Window.setGeometry body)).queue =
      (u.window.setGeometry body).2 := by
    change u.queue ++ _ = _
    rw [hu.queue, List.nil_append]
    rfl
  have hevents : ∀ e ∈ (u.window.setGeometry body).2, e = .moved ∨ e = .resized :=
    fun e => Window.mem_setGeometry
  have hsome : (u.window.setGeometry body).2 ≠ [] := fun hnil =>
    hmoved (Window.setGeometry_eq_nil hnil)
  obtain ⟨hpending, r, c, hcore⟩ := handleQueued_moved (by rwa [hqueue])
    (fun hnil => absurd (hqueue.symm.trans hnil) hsome) (Nat.le_mul_of_pos_left _ (by decide)) h
  refine ⟨?_, hpending, congrArg Core.record hcore, congrArg Core.quitting hcore⟩
  have hcalm : Calm w.core.visible w.core.maximizedBeforeHide w.core.queue := by
    rw [hcore]
    exact ⟨_, rfl, .inl hvisible⟩
  exact {
    geometry := congrArg Core.geometry hcore
    state := (congrArg Core.state hcore).trans hstate
    monitors := congrArg Core.monitors hcore
    config := congrArg Core.config hcore
    column := (congrArg Core.rightColumn hcore).trans hcolumn
    placed := (congrArg Core.placed hcore).trans hplaced
    unmaximized := (congrArg (fun d => d.record.maximized) hcore).trans hrecord
    timed := hrest.timed
    calm := hcalm }

variable {body : Rect} {ms : List Monitor} {config : Config}

/-- What the window would be saved as, held with a body in the normal state. -/
theorem savedRecord_of_holding {v : Session σ} (hv : v.core.Holding body ms config) :
    v.savedRecord =
      (⟨body, .normal, v.window.visible, true, 0⟩ : Snapshot).inForce v.record ms config.scale
        config.leastSize := by
  have hgeometry : v.window.geometry = body := hv.geometry
  have hstate : v.window.state = .normal := hv.state
  have hmonitors : v.window.monitors = ms := hv.monitors
  have hconfig : v.config = config := hv.config
  have hcolumn : v.rightColumn = none := hv.column
  have hplaced : v.placed = true := hv.placed
  simp only [savedRecord, snapshot, columnWidth, hgeometry, hstate, hmonitors, hconfig, hcolumn,
    hplaced, Option.getD_none]

variable [LawfulStore σ]

theorem steady_perform {s t : Session σ} {step : Script.Step} (hstep : step.keepsBody)
    (hidle : (∃ n, step = .wait n) → s.placementTimer.pending = false)
    (hs : s.core.Holding body ms config) (h : perform s step = .ok t) :
    Steady body ms config s.core t.core := by
  cases he : step.event? with
  | some e =>
    rw [perform_eq_handle he] at h
    exact steady_given he hs h
  | none =>
    cases step with
    | visible b =>
      cases h
      rw [core_setVisible]
      cases b with
      | false => exact ⟨{ hs with calm := hs.calm.append fun _ => Calm.setVisible_false }, rfl, rfl⟩
      | true => exact ⟨{ hs with calm := hs.calm.append fun _ => Calm.setVisible_true }, rfl, rfl⟩
    | focus b =>
      cases h
      rw [core_setFocus]
      refine ⟨{ hs with calm := hs.calm.append fun f hf => ?_ }, rfl, rfl⟩
      rw [Window.setFocus]
      split
      · exact ⟨f, rfl, hf⟩
      · exact Calm.activeChanged hf
    | wait n =>
      rw [perform, wait] at h
      exact steady_waitUntil hs (hidle ⟨n, rfl⟩) h
    | move | resize | state | monitors | rightColumn => cases hstep
    | _ => cases he

theorem perform_toSave {s t : Session σ} {step : Script.Step} (hstep : step.keepsBody)
    (hs : s.core.Holding body ms config) (h : perform s step = .ok t) :
    ∃ b v, performToSave s step = .ok (b, v) ∧ Steady body ms config s.core v.core ∧
      if b then SavedAt body ms config v t else v = t := by
  by_cases hwait : ∃ n, step = .wait n
  · obtain ⟨n, rfl⟩ := hwait
    rw [perform, wait] at h
    exact waitUntil_toSave hs h
  · have hsteady := steady_perform hstep (fun hn => absurd hn hwait) hs h
    refine ⟨false, t, ?_, hsteady, rfl⟩
    cases step with
    | wait n => exact absurd ⟨n, rfl⟩ hwait
    | _ =>
      rw [performToSave, h]
      · rfl
      · exact fun n hn => hwait ⟨n, hn⟩

/-- A session that waits for nothing keeps its record. -/
theorem steady_play {s t : Session σ} {rest : Script} (hrest : ∀ e ∈ rest, e.keepsBody)
    (hidle : s.placementTimer.pending = false) (hs : s.core.Holding body ms config)
    (h : s.play rest = .ok t) : Steady body ms config s.core t.core := by
  induction rest generalizing s with
  | nil =>
    cases h
    exact .refl hs
  | cons step rest ih =>
    simp only [play, bind_eq_ok] at h
    obtain ⟨u, hu, v, hv, h⟩ := h
    have hsu := steady_perform (hrest step (by simp)) (fun _ => hidle) hs hu
    have hsv := hsu.trans (steady_handleQueued hsu.holding hv)
    split at h
    · cases h
      exact hsv
    · have hidle' : v.placementTimer.pending = false :=
        (congrArg Timer.pending hsv.placementTimer).trans hidle
      exact hsv.trans (ih (fun e he => hrest e (List.mem_cons_of_mem _ he)) hidle' hsv.holding h)

theorem play_toSave {s t : Session σ} {rest : Script} (hrest : ∀ e ∈ rest, e.keepsBody)
    (hpending : s.placementTimer.pending) (hs : s.core.Holding body ms config)
    (h : s.play rest = .ok t) :
    ∃ v, s.atSave rest = .ok v ∧ Steady body ms config s.core v.core ∧
      (v = t ∧ t.placementTimer.pending ∨ SavedAt body ms config v t) := by
  induction rest generalizing s with
  | nil =>
    cases h
    exact ⟨_, rfl, .refl hs, .inl ⟨rfl, hpending⟩⟩
  | cons step rest ih =>
    have hrest' : ∀ e ∈ rest, e.keepsBody := fun e he => hrest e (List.mem_cons_of_mem _ he)
    simp only [play, bind_eq_ok] at h
    obtain ⟨u, hu, v, hv, h⟩ := h
    obtain ⟨b, w, hw, hsw, hcase⟩ := perform_toSave (hrest step (by simp)) hs hu
    simp only [atSave, hw]
    cases b with
    | true =>
      -- once the placement is saved, the rest of the script keeps the record
      have hsaved : SavedAt body ms config w v := by
        have hsaved : SavedAt body ms config w u := hcase
        exact hsaved.steady (steady_handleQueued hsaved.holding hv)
      refine ⟨w, rfl, hsw, .inr ?_⟩
      split at h
      · cases h
        exact hsaved
      · exact hsaved.steady (steady_play hrest' hsaved.idle hsaved.holding h)
    | false =>
      have hwu : w = u := hcase
      subst hwu
      have hsv := hsw.trans (steady_handleQueued hsw.holding hv)
      have hpending' : v.placementTimer.pending :=
        (congrArg Timer.pending hsv.placementTimer).trans hpending
      simp only [bind, Except.bind, hv]
      split at h
      · rename_i hquit
        have hvt : v = t := Except.ok.inj h
        subst hvt
        exact ⟨v, by simp [hquit, pure, Except.pure], hsv, .inl ⟨rfl, hpending'⟩⟩
      · rename_i hquit
        obtain ⟨x, hx, hsx, hcase⟩ := ih hrest' hpending' hsv.holding h
        exact ⟨x, by simpa [hquit] using hx, hsv.trans hsx, hcase⟩

theorem record_shutdown {s t : Session σ} {r : Except Settings.SaveError Unit}
    (h : shutdown s = .ok (r, t)) :
    if s.placementTimer.pending then s.savedRecord = .ok t.record else t.record = s.record := by
  obtain ⟨u, hflush, hu⟩ := shutdown_eq_ok h
  have hrecord : t.record = u.record := by
    have hkept : (flush u.cancelSettingsTimer).2.record = u.record :=
      congrArg Settings.placement (LawfulStore.settings_flush u.store u.files)
    rw [← hkept, hflush]
  rw [hrecord]
  split
  · rename_i hp
    rw [if_pos hp] at hu
    exact record_savePlacement (s := s.cancelPlacementTimer) hu
  · rename_i hp
    rw [if_neg hp] at hu
    rw [hu]

theorem replay_lastMove {monitors : List Monitor} {frame : Margins} {store : σ} {files : Tree}
    {tray : Bool} {pre rest : Script} {step : Script.Step} {s u t : Session σ}
    {r : Except Settings.SaveError Unit}
    (hbegin : (start (.onMonitors monitors frame) store files config).begin tray = .ok s)
    (hu : s.play pre = .ok u) (hrunning : u.quitting = false) (hplaced : u.placed)
    (hvisible : u.window.visible) (hstate : u.window.state = .normal)
    (hcolumn : u.rightColumn = none) (hrecord : u.record.maximized = false)
    (hstep : step.bodyFrom u.window.geometry = some body) (hmoved : body ≠ u.window.geometry)
    (hsize : u.config.leastSize.w ≤ body.w ∧ u.config.leastSize.h ≤ body.h)
    (hrest : ∀ e ∈ rest, e.keepsBody) (h : s.replay (pre ++ step :: rest) = .ok (r, t)) :
    ∃ w v, (perform u step >>= processQueue) = .ok w ∧ w.atSave rest = .ok v ∧
      (v.window.visible →
        (⟨body, .normal, true, true, 0⟩ : Snapshot).bodyPlacement u.window.monitors u.config.scale =
          .ok t.record) ∧
      (v.window.visible = false → t.record = u.record) := by
  have hstart : (start (.onMonitors monitors frame) store files config).Timed := by
    intro a ha
    cases ha
  have hurest := atRest_play (atRest_begin hstart hbegin) hu
  simp only [replay, bind_eq_ok] at h
  obtain ⟨x, hx, hshutdown⟩ := h
  rw [play_append hu hrunning, play, ← bind_assoc, bind_eq_ok] at hx
  obtain ⟨w, hw, hx⟩ := hx
  obtain ⟨hholding, hpending, hwrecord, hquit⟩ := holding_of_move hurest hplaced hvisible hstate
    hcolumn hrecord hstep hmoved hw
  rw [hrunning] at hquit
  have hplay : w.play rest = .ok x := by simpa [hquit] using hx
  obtain ⟨v, hv, hsteady, hcase⟩ := play_toSave hrest hpending hholding hplay
  have hsaved : v.savedRecord = .ok t.record := by
    -- the shutdown saves what the script left waiting
    have hend := record_shutdown hshutdown
    rcases hcase with ⟨rfl, hp⟩ | hsaved
    · rwa [if_pos hp] at hend
    · rw [if_neg (by simp [hsaved.idle])] at hend
      rw [hend]
      exact hsaved.record
  rw [savedRecord_of_holding hsteady.holding] at hsaved
  refine ⟨w, v, hw, hv, fun hshown => ?_, fun hhidden => ?_⟩
  · rw [hshown] at hsaved
    exact Snapshot.inForce_of_fitting rfl (by simp) (by simpa [Snapshot.kept] using hsize) hsaved
  · rw [hhidden, Snapshot.inForce_of_idle rfl] at hsaved
    have hvrecord : v.record = t.record := Except.ok.inj hsaved
    rw [← hvrecord, ← hwrecord]
    exact hsteady.record

/-- A window that is hidden before its move is saved and shown again in time. -/
theorem replay_lastMove_shown :
    let m : Monitor := ⟨"DP-1", ⟨0, 0, 1920, 1080⟩, ⟨0, 0, 1920, 1080⟩, true⟩
    let rest : Script := [.close, .wait 10, .tray .trigger, .wait 3000]
    ∃ s u p, (start (.onMonitors [m] .none) (FileStore.openAt "settings.json" .empty) .empty
        .initial).begin true = .ok s ∧ s.play [.placed] = .ok u ∧
      s.replay ([.placed] ++ .move 40 60 :: rest) = .ok p ∧
      (⟨⟨40, 60, 800, 600⟩, .normal, true, true, 0⟩ : Snapshot).bodyPlacement u.window.monitors
        u.config.scale = .ok p.2.record := by
  intro m rest
  obtain ⟨s, hs, u, hu, ⟨hrunning, hplaced, hvisible, hstate, hcolumn, hrecord, hgeometry, hleast⟩,
      p, hp, w, hw, v, hv, hshown⟩ :
      ∃ s, (start (.onMonitors [m] .none) (FileStore.openAt "settings.json" .empty) .empty
        .initial).begin true = .ok s ∧
      ∃ u, s.play [.placed] = .ok u ∧
        (u.quitting = false ∧ u.placed ∧ u.window.visible ∧ u.window.state = .normal ∧
          u.rightColumn = none ∧ u.record.maximized = false ∧
          u.window.geometry = ⟨560, 240, 800, 600⟩ ∧ u.config.leastSize = ⟨380, 480⟩) ∧
        ∃ p, s.replay ([.placed] ++ .move 40 60 :: rest) = .ok p ∧
          ∃ w, (perform u (.move 40 60) >>= processQueue) = .ok w ∧
            ∃ v, w.atSave rest = .ok v ∧ v.window.visible := by
    decide +kernel
  have hstep : Script.Step.bodyFrom u.window.geometry (.move 40 60) =
      some ⟨40, 60, 800, 600⟩ := by
    rw [hgeometry]
    rfl
  obtain ⟨w', v', hw', hv', hsaved, -⟩ := replay_lastMove hs hu hrunning hplaced hvisible hstate
    hcolumn hrecord hstep (by rw [hgeometry]; decide) (by rw [hleast]; decide) (by decide) hp
  cases hw.symm.trans hw'
  cases hv.symm.trans hv'
  exact ⟨s, u, p, hs, hu, hp, hsaved hshown⟩

/-- A window that goes to the tray before its move is saved loses the move. -/
theorem replay_lastMove_hidden :
    ¬ ∀ (monitors : List Monitor) (frame : Margins) (path : String) (files : Tree) (config : Config)
        (tray : Bool) (pre rest : Script) (step : Script.Step) (s u t : Session FileStore)
        (r : Except Settings.SaveError Unit) (body : Rect),
      (start (.onMonitors monitors frame) (FileStore.openAt path files) files config).begin tray =
        .ok s →
      s.play pre = .ok u → u.quitting = false → u.placed → u.window.visible →
      u.window.state = .normal → u.rightColumn = none → u.record.maximized = false →
      step.bodyFrom u.window.geometry = some body → body ≠ u.window.geometry →
      u.config.leastSize.w ≤ body.w ∧ u.config.leastSize.h ≤ body.h →
      (∀ e ∈ rest, e.keepsBody) → s.replay (pre ++ step :: rest) = .ok (r, t) →
      (⟨body, .normal, true, true, 0⟩ : Snapshot).bodyPlacement u.window.monitors u.config.scale =
        .ok t.record := by
  intro h
  let m : Monitor := ⟨"DP-1", ⟨0, 0, 1920, 1080⟩, ⟨0, 0, 1920, 1080⟩, true⟩
  let rest : Script := [.close, .wait 3000]
  obtain ⟨s, hs, u, hu, ⟨hrunning, hplaced, hvisible, hstate, hcolumn, hrecord, hgeometry, hleast⟩,
      p, hp, hlost⟩ :
      ∃ s, (start (.onMonitors [m] .none) (FileStore.openAt "settings.json" .empty) .empty
        .initial).begin true = .ok s ∧
      ∃ u, s.play [.placed] = .ok u ∧
        (u.quitting = false ∧ u.placed ∧ u.window.visible ∧ u.window.state = .normal ∧
          u.rightColumn = none ∧ u.record.maximized = false ∧
          u.window.geometry = ⟨560, 240, 800, 600⟩ ∧ u.config.leastSize = ⟨380, 480⟩) ∧
        ∃ p, s.replay ([.placed] ++ .move 40 60 :: rest) = .ok p ∧ p.2.record = .empty := by
    decide +kernel
  have hstep : Script.Step.bodyFrom u.window.geometry (.move 40 60) =
      some ⟨40, 60, 800, 600⟩ := by
    rw [hgeometry]
    rfl
  have hbody := h [m] .none "settings.json" .empty .initial true [.placed] rest (.move 40 60) s u
    p.2 p.1 ⟨40, 60, 800, 600⟩ hs hu hrunning hplaced hvisible hstate hcolumn hrecord hstep
    (by rw [hgeometry]; decide) (by rw [hleast]; decide) (by decide) hp
  rw [hlost] at hbody
  obtain ⟨-, c, -, ⟨-, hnone⟩ | ⟨n, -, hnone, -⟩⟩ := Snapshot.bodyPlacement_eq_ok hbody
  · cases hnone
  · cases congrArg Placement.w hnone

end Session

end WindowKeeper
