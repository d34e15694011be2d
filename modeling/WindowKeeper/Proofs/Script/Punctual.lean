import WindowKeeper.Proofs.Script.Played
import WindowKeeper.Proofs.Session.Unmaximized

namespace WindowKeeper

/-- Whether an event neither tells the state of the window nor makes the session change it. -/
def Event.isQuiet : Event → Bool
  | .moved => true
  | .resized => true
  | .activeChanged => true
  | .visibleChanged b => !b
  | _ => false

/-- A queue of notifications for a window of state `st`. Every state that is told is `st`. When the
window is shown it may be maximized, and no state is told after that. -/
inductive Punctual (st : WindowState) : List Event → Prop
  | quiet {es : List Event} (h : ∀ e ∈ es, e.isQuiet) : Punctual st es
  | shown {es : List Event} (h : ∀ e ∈ es, e.isQuiet) : Punctual st (.visibleChanged true :: es)
  | told {es : List Event} (h : Punctual st es) : Punctual st (.stateChanged st :: es)
  | skip {e : Event} {es : List Event} (he : e.isQuiet) (h : Punctual st es) : Punctual st (e :: es)

namespace Punctual

variable {st : WindowState} {e : Event} {es fs : List Event}

theorem nil : Punctual st [] := quiet (by simp)

theorem append (h : Punctual st es) (hfs : ∀ f ∈ fs, f.isQuiet) : Punctual st (es ++ fs) := by
  have happend {es : List Event} (hes : ∀ e ∈ es, e.isQuiet) : ∀ e ∈ es ++ fs, e.isQuiet := by
    intro e he
    rcases List.mem_append.mp he with he | he
    · exact hes e he
    · exact hfs e he
  induction h with
  | quiet hes => exact quiet (happend hes)
  | shown hes => exact shown (happend hes)
  | told _ ih => exact told ih
  | skip he _ ih => exact skip he ih

theorem quiet_append (hes : ∀ e ∈ es, e.isQuiet) (h : Punctual st fs) : Punctual st (es ++ fs) := by
  induction es with
  | nil => exact h
  | cons e es ih =>
    exact skip (hes e List.mem_cons_self) (ih fun f hf => hes f (List.mem_cons_of_mem _ hf))

theorem tail (h : Punctual st (e :: es)) : Punctual st es := by
  cases h with
  | quiet h => exact quiet fun f hf => h f (List.mem_cons_of_mem _ hf)
  | shown h => exact quiet h
  | told h | skip _ h => exact h

theorem state_eq {st' : WindowState} (h : Punctual st (.stateChanged st' :: es)) : st' = st := by
  cases h with
  | quiet h => cases h _ List.mem_cons_self
  | told => rfl
  | skip he => cases he

theorem quiet_of_shown (h : Punctual st (.visibleChanged true :: es)) : ∀ e ∈ es, e.isQuiet := by
  cases h with
  | quiet h => cases h _ List.mem_cons_self
  | shown h => exact h
  | skip he => cases he

theorem isNotice (h : Punctual st (e :: es)) : e.isNotice := by
  have hquiet {f : Event} (hf : f.isQuiet) : f.isNotice := by
    cases f with
    | moved | resized | activeChanged | visibleChanged => rfl
    | _ => cases hf
  cases h with
  | quiet h => exact hquiet (h e List.mem_cons_self)
  | shown | told => rfl
  | skip he => exact hquiet he

end Punctual

namespace Window

variable {w : Window}

theorem isQuiet_setGeometry {r : Rect} : ∀ e ∈ (w.setGeometry r).2, e.isQuiet := by
  intro e he
  rcases mem_setGeometry he with rfl | rfl <;> rfl

theorem isQuiet_setFocus {b : Bool} : ∀ e ∈ (w.setFocus b).2, e.isQuiet := by
  unfold setFocus
  split <;> simp [Event.isQuiet]

theorem isQuiet_hidden : ∀ e ∈ (w.setVisible false).2, e.isQuiet := by
  rw [setVisible_events]
  cases w.visible <;> cases w.focused <;> simp [Event.isQuiet]

theorem punctual_setState {st : WindowState} : Punctual st (w.setState st).2 := by
  rw [setState_events]
  split
  · exact .nil
  · exact .told .nil

theorem punctual_setVisible {st : WindowState} {b : Bool} : Punctual st (w.setVisible b).2 := by
  cases b with
  | false => exact .quiet isQuiet_hidden
  | true =>
    rw [setVisible_events]
    split
    · exact .nil
    · exact .shown (by simp)

end Window

theorem Moment.truthful_of_untold {σ : Type} {m : Moment σ} (h : m.told? = none) : m.Truthful := by
  intro hmaximized
  rw [Moment.savedState, h]
  exact hmaximized

namespace Session

variable {σ : Type}

theorem punctual_setGeometry {s t : Session σ} {r : Rect} {column : Option Int}
    (hs : s.queue = []) (h : t.core = { (s.onWindow (Window.setGeometry r)).core with
      rightColumn := column }) : Punctual t.core.state t.core.queue := by
  rw [h, core_setGeometry, hs]
  exact .quiet Window.isQuiet_setGeometry

theorem punctual_hide {s t : Session σ} (hs : Punctual s.core.state s.core.queue)
    (h : s.Hides t) : Punctual t.core.state t.core.queue := by
  rw [h.core, core_hide]
  exact hs.append Window.isQuiet_hidden

variable [Store σ] {s t : Session σ}

theorem punctual_activate (hs : ∀ e ∈ s.queue, e.isQuiet) (h : t.core = (activate s).core) :
    Punctual t.core.state t.core.queue := by
  rw [h, core_activate]
  apply Punctual.quiet_append hs
  have hshown {st : WindowState} :
      Punctual st (if s.window.visible then [] else [.visibleChanged true]) := by
    split
    · exact .nil
    · exact .shown (by simp)
  apply Punctual.append
  · by_cases hm : s.window.state = .minimized
    · simp only [if_pos hm]
      exact .told hshown
    · simp only [if_neg hm]
      exact hshown
  · split <;> simp [Event.isQuiet]

/-- Handling a notification in its turn keeps the queue behind it punctual. -/
theorem punctual_handle {e : Event} {es : List Event} (hs : Punctual s.window.state (e :: es))
    (hq : s.queue = es) (h : handle s e = .ok t) : Punctual t.core.state t.core.queue := by
  have hrest : Punctual s.core.state s.core.queue := by
    change Punctual s.window.state s.queue
    rw [hq]
    exact hs.tail
  cases e with
  | moved | resized =>
    cases h
    exact hrest
  | activeChanged =>
    cases h
    rw [core_updateActive]
    exact hrest
  | stateChanged st =>
    obtain ⟨r, hr, hcore⟩ := stateChanged_eq s st
    rw [handle, hr] at h
    have hr' : Punctual r.core.state r.core.queue := by
      rcases hcore with hcore | ⟨-, hides⟩
      · rw [hcore]
        exact hrest
      · exact punctual_hide hrest hides
    rcases savePlacement_eq_ok h with ⟨-, rfl⟩ | ⟨p, -, rfl⟩
    · exact hr'
    · exact hr'
  | visibleChanged b =>
    cases h
    have hcore := core_visibleChanged s b
    cases b with
    | false =>
      rw [hcore]
      exact hrest
    | true =>
      rw [hcore, if_pos rfl]
      split
      · -- the window is maximized again, and the events behind tell no other state
        rw [core_setState, hq]
        exact Punctual.quiet_append hs.quiet_of_shown Window.punctual_setState
      · exact hrest
  | _ => cases hs.isNotice

theorem queue_handle_timer {e : Event} (he : e.isTimer) (h : handle s e = .ok t) :
    t.queue = s.queue := by
  cases e with
  | placementTimer g =>
    rw [handle_placementTimer] at h
    split at h
    · rcases savePlacement_eq_ok h with ⟨-, rfl⟩ | ⟨p, -, rfl⟩
      · rfl
      · rfl
    · cases h
      rfl
  | settingsTimer g =>
    rw [handle_settingsTimer] at h
    cases h
    split <;> rfl
  | _ => cases he

theorem punctual_perform {step : Script.Step} (hs : s.queue = []) (hwait : ∀ n, step ≠ .wait n)
    (h : perform s step = .ok t) : Punctual t.core.state t.core.queue := by
  have hquiet : ∀ e ∈ s.queue, e.isQuiet := by simp [hs]
  have hrest : Punctual s.core.state s.core.queue := .quiet hquiet
  cases step with
  | move | resize =>
    cases h
    exact punctual_setGeometry hs rfl
  | state st =>
    cases h
    rw [core_setState]
    exact Punctual.quiet_append hquiet Window.punctual_setState
  | visible b =>
    cases h
    rw [core_setVisible]
    exact Punctual.quiet_append hquiet Window.punctual_setVisible
  | focus b =>
    cases h
    rw [core_setFocus]
    exact Punctual.quiet_append hquiet (.quiet Window.isQuiet_setFocus)
  | monitors | placed =>
    cases h
    exact hrest
  | tray a =>
    cases h
    rcases core_trayActivated s a with hcore | hides | hcore
    · rw [hcore]
      exact hrest
    · exact punctual_hide hrest hides
    · exact punctual_activate hquiet hcore
  | unread n =>
    cases h
    rw [core_updateTitle]
    exact hrest
  | workMode mode =>
    cases h
    rcases core_workModeChanged s mode with ⟨-, hcore⟩ | ⟨-, hcore⟩
    · rw [hcore]
      exact hrest
    · exact punctual_activate (s := s.enterMode mode) hquiet hcore
  | nativeFrame native =>
    rw [core_nativeFrameChanged h]
    exact hrest
  | rightColumn width =>
    rcases core_setRightColumn h with ⟨-, hcore⟩ | ⟨-, d, r, added, -, -, hcore⟩
    · rw [hcore]
      exact hrest
    · exact punctual_setGeometry hs hcore
  | close =>
    cases h
    rcases core_close s with hides | hcore
    · exact punctual_hide hrest hides
    · rw [hcore]
      exact hrest
  | wait n => exact absurd rfl (hwait n)

omit [Store σ] in
/-- The steps of a script tell no state by themselves. -/
theorem truthful_perform {step : Script.Step} {x : Turn} (hx : step.turn? = some x) :
    (Moment.mk s x).Truthful := by
  apply Moment.truthful_of_untold
  cases step with
  | wait n => cases hx
  | _ =>
    cases hx
    rfl

omit [Store σ] in
/-- The next event is handled truthfully if it tells the state that the window has. -/
theorem truthful_next {deadline : Nat} {e : Event} (hn : s.nextEvent? deadline = some (e, t))
    (he : ∀ st, e.state? = some st → st = s.window.state) :
    (Moment.mk s (.next deadline)).Truthful := by
  have htold : (Moment.mk s (.next deadline)).told? = e.state? := by
    change Option.bind (Moment.mk s (.next deadline)).event? Event.state? = _
    rw [event?_next hn]
    rfl
  cases hst : e.state? with
  | none => exact Moment.truthful_of_untold (htold.trans hst)
  | some st =>
    intro hmaximized
    rw [Moment.savedState, htold, hst]
    exact (he st hst).trans hmaximized

theorem truthful_handleQueued {n : Nat} (hs : Punctual s.core.state s.core.queue)
    (h : handleQueued n s = .ok t) : Follows Moment.Truthful s t := by
  have hkeeps : Punctual t.core.state t.core.queue ∧ Follows Moment.Truthful s t := by
    refine handleQueued_keeps
      (P := fun u => Punctual u.core.state u.core.queue ∧ Follows Moment.Truthful s u) h
      ⟨hs, .refl⟩ ?_
    rintro r u e es ⟨hr, hfollows⟩ hq hu
    have hhead : Punctual r.window.state (e :: es) := hq ▸ hr
    have hn := nextEvent?_queued hq 0
    have htruthful := truthful_next hn fun st hst => by
      cases e with
      | stateChanged st' =>
        cases hst
        exact hhead.state_eq
      | _ => cases hst
    have hpunctual := punctual_handle (s := { r with queue := es }) hhead rfl hu
    exact ⟨hpunctual, hfollows.turn htruthful ((turn_next hn).trans hu)⟩
  exact hkeeps.2

/-- Only timers wake a session that rests, and they tell no state. -/
theorem truthful_waitUntil {deadline n : Nat} (hs : s.AtRest) (h : waitUntil deadline n s = .ok t) :
    t.AtRest ∧ Follows Moment.Truthful s t := by
  refine waitUntil_keeps (P := fun u => u.AtRest ∧ Follows Moment.Truthful s u) h ⟨hs, .refl⟩ ?_ ?_
  · rintro r u v e ⟨hr, hfollows⟩ hn hv
    rcases nextEvent_eq_some hn with ⟨es, hq, -⟩ | ⟨-, c, hc, rfl⟩
    · rw [hr.queue] at hq
      cases hq
    · obtain ⟨⟨a, ha, rfl⟩, -⟩ := Clock.next?_eq_some hc
      have htimer : a.event.isTimer := hr.timed a ha
      have htruthful := truthful_next hn fun st hst => by
        cases he : a.event with
        | stateChanged st' =>
          rw [he] at htimer
          cases htimer
        | _ =>
          rw [he] at hst
          cases hst
      have hqueue : v.queue = [] := (queue_handle_timer htimer hv).trans hr.queue
      have htimed : v.Timed := timed_handle (timed_nextEvent hr.timed hn) hv
      exact ⟨⟨hqueue, htimed⟩, hfollows.turn htruthful ((turn_next hn).trans hv)⟩
  · rintro r ⟨hr, hfollows⟩
    have hpass : r.turn (.pass deadline) = .ok (r.setTime deadline) := rfl
    exact ⟨⟨hr.queue, hr.timed⟩, hfollows.turn (Moment.truthful_of_untold rfl) hpass⟩

theorem truthful_play {script : Script} (hs : s.AtRest) (h : s.play script = .ok t) :
    Follows Moment.Truthful s t := by
  have hkeeps : t.AtRest ∧ Follows Moment.Truthful s t := by
    refine play_keeps (P := fun u => u.AtRest ∧ Follows Moment.Truthful s u)
      (Q := fun u => Punctual u.core.state u.core.queue ∧ u.Timed ∧ Follows Moment.Truthful s u)
      h ⟨hs, .refl⟩ ?_ ?_
    · rintro r u step - ⟨hr, hfollows⟩ hu
      have htimed := timed_perform hr.timed hu
      cases hx : step.turn? with
      | some x =>
        have hpunctual := punctual_perform hr.queue (by rintro n rfl; cases hx) hu
        exact ⟨hpunctual, htimed, hfollows.turn (truthful_perform hx) (turn_perform hx hu)⟩
      | none =>
        cases step with
        | wait n =>
          obtain ⟨hrest, htruthful⟩ := truthful_waitUntil hr hu
          have hpunctual : Punctual u.core.state u.core.queue :=
            .quiet (by simp [core, hrest.queue])
          exact ⟨hpunctual, htimed, hfollows.trans htruthful⟩
        | _ => cases hx
    · rintro r u ⟨hr, htimed, hfollows⟩ hu
      exact ⟨atRest_processQueue htimed hu, hfollows.trans (truthful_handleQueued hr hu)⟩
  exact hkeeps.2

theorem truthful_begin {tray : Bool} (hs : s.queue = []) (h : s.begin tray = .ok t) :
    Follows Moment.Truthful s t := by
  simp only [begin, bind_eq_ok] at h
  obtain ⟨u, hu, h⟩ := h
  have hopened : Follows Moment.Truthful s (activate u) :=
    follows_opened (fun _ => Moment.truthful_of_untold rfl) (fun _ => Moment.truthful_of_untold rfl)
      (fun _ => Moment.truthful_of_untold rfl) hu
  have hquiet : ∀ e ∈ u.queue, e.isQuiet := by
    obtain ⟨r, frame, -, hcore⟩ := core_init hu
    have hnone : (if tray then attachTray s else s).queue = [] := by
      cases tray <;> exact hs
    have hqueue : u.queue = _ := congrArg Core.queue hcore
    rw [hqueue, core_setGeometry, hnone]
    exact Window.isQuiet_setGeometry
  exact hopened.trans (truthful_handleQueued (punctual_activate hquiet rfl) h)

/-- In a script every moment is truthful. -/
theorem replay_truthful {window : Window} {store : σ} {files : Tree} {config : Config} {tray : Bool}
    {script : Script} {r : Except Settings.SaveError Unit}
    (hbegin : (start window store files config).begin tray = .ok s)
    (h : s.replay script = .ok (r, t)) :
    ∃ ms, (start window store files config).Course ms t ∧ ∀ m ∈ ms, m.Truthful := by
  have htimed : (start window store files config).Timed := by
    intro a ha
    cases ha
  simp only [replay, bind_eq_ok] at h
  obtain ⟨u, hu, h⟩ := h
  have hplayed := (truthful_begin rfl hbegin).trans (truthful_play (atRest_begin htimed hbegin) hu)
  exact hplayed.turn (Moment.truthful_of_untold rfl) (turn_shutdown h)

end Session

end WindowKeeper
