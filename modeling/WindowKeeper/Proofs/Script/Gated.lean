import WindowKeeper.Proofs.Script.Played
import WindowKeeper.Proofs.Session.Recorded
import WindowKeeper.Proofs.Settings.Saved

namespace WindowKeeper

/-- Whether something may be written because of an event, which opens the gate or changes a
setting. -/
def Event.mayWrite : Event → Bool
  | .placed => true
  | .workModeChanged _ => true
  | .nativeFrameChanged _ => true
  | _ => false

theorem Event.mayWrite_of_isNotice {e : Event} (h : e.isNotice) : e.mayWrite = false := by
  cases e with
  | placed | workModeChanged | nativeFrameChanged => cases h
  | _ => rfl

theorem Event.mayWrite_of_isTimer {e : Event} (h : e.isTimer) : e.mayWrite = false := by
  cases e with
  | placed | workModeChanged | nativeFrameChanged => cases h
  | _ => rfl

def Turn.mayWrite : Turn → Bool
  | .act .markPlaced _ => true
  | .act (.send e) _ => e.mayWrite
  | .handle e => e.mayWrite
  | _ => false

def Script.Step.mayWrite : Script.Step → Bool
  | .placed => true
  | .workMode _ => true
  | .nativeFrame _ => true
  | _ => false

theorem Script.Step.mayWrite_turn {step : Script.Step} (hstep : step.mayWrite = false) {x : Turn}
    (hx : step.turn? = some x) : x.mayWrite = false := by
  cases step with
  | placed | workMode | nativeFrame => cases hstep
  | _ =>
    cases hx <;> rfl

namespace Session

section
variable {σ : Type} [Store σ] {s t : Session σ}

/-- The gate was opened in a course after which it stands open. -/
theorem placed_course {ms : List (Moment σ)} (h : s.Course ms t) (hs : s.placed = false)
    (ht : t.placed) : ∃ m ∈ ms, m.OpensGate := by
  induction h with
  | start =>
    rw [hs] at ht
    cases ht
  | turn _ hturn ih =>
    rcases (frames_turn hturn).placed ht with hbefore | hopens
    · obtain ⟨m, hm, hopens⟩ := ih hbefore
      exact ⟨m, List.mem_cons_of_mem _ hm, hopens⟩
    · exact ⟨_, List.mem_cons_self, hopens⟩

theorem record_course [LawfulStore σ] {ms : List (Moment σ)} (h : s.Course ms t) :
    t.record = s.record ∨ t.record.fits s.config.leastSize := by
  induction h with
  | start => exact .inl rfl
  | turn hcourse ht ih =>
    rcases record_turn ht with hsame | hworth
    · rw [hsame]
      exact ih
    · right
      rw [← config_course hcourse]
      exact hworth.fits

end

/-- A session whose place means nothing yet, with the store and the files as they were. -/
structure Untouched (st : FileStore) (files : Tree) (s : Session FileStore) : Prop where
  placed : s.placed = false
  store : s.store = st
  files : s.files = files
  queue : ∀ e ∈ s.queue, e.mayWrite = false
  alarms : ∀ a ∈ s.clock.alarms, a.event.mayWrite = false

variable {st : FileStore} {files : Tree} {s t : Session FileStore} {x : Turn}

theorem Untouched.event (hs : s.Untouched st files) (hx : x.mayWrite = false) {e : Event}
    (he : (Moment.mk s x).event? = some e) : e.mayWrite = false := by
  cases x with
  | handle f =>
    cases he
    exact hx
  | next deadline =>
    obtain ⟨⟨f, u⟩, hn, rfl⟩ := Option.map_eq_some_iff.mp he
    rcases nextEvent_eq_some hn with ⟨es, hq, -⟩ | ⟨-, c, hc, -⟩
    · apply hs.queue
      rw [hq]
      exact List.mem_cons_self
    · obtain ⟨⟨a, ha, hevent⟩, -⟩ := Clock.next?_eq_some hc
      rw [← hevent]
      exact hs.alarms a ha
  | _ => cases he

theorem untouched_turn (hst : st.dirty = false) (hs : s.Untouched st files)
    (hx : x.mayWrite = false) (h : s.turn x = .ok t) : t.Untouched st files := by
  have hframes := frames_turn h
  have hclosed : ¬ (Moment.mk s x).OpensGate := by
    rintro (hplaced | ⟨single, rfl⟩)
    · cases hs.event hx hplaced
    · cases hx
  have hplaced : t.placed = false := by
    cases hp : t.placed with
    | false => rfl
    | true =>
      rcases hframes.placed hp with hbefore | hopens
      · rw [hs.placed] at hbefore
        cases hbefore
      · exact absurd hopens hclosed
  -- no record is worth writing before the gate is open, so that there is nothing to flush either
  have hunworthy {state : WindowState} {p : Placement} :
      s.newRecord state ≠ .ok (some p) := by
    intro hworth
    have hp := (worth_of_newRecord hworth).placed
    rw [hs.placed] at hp
    cases hp
  have hstores : t.store = st ∧ t.files = files := by
    cases hframes.stores with
    | keep store files => exact ⟨store.trans hs.store, files.trans hs.files⟩
    | flush flushed =>
      have hflush : s.store.flush s.files = _ := flushed
      rw [hs.store, hs.files, FileStore.flush_clean hst] at hflush
      cases hflush
      exact ⟨rfl, rfl⟩
    | mode event | frame event => cases hs.event hx event
    | save worth | saveFlush worth => exact absurd worth hunworthy
  exact {
    placed := hplaced
    store := hstores.1
    files := hstores.2
    queue := by
      intro e he
      rcases hframes.queue e he with he | he | ⟨a, ha, rfl⟩ | ⟨single, rfl⟩
      · exact hs.queue e he
      · exact Event.mayWrite_of_isNotice he
      · exact hs.alarms a ha
      · exact hx
    alarms := by
      intro a ha
      rcases hframes.alarms a ha with ha | ha
      · exact hs.alarms a ha
      · exact Event.mayWrite_of_isTimer ha }

theorem untouched_course {ms : List (Moment FileStore)} (hst : st.dirty = false)
    (hs : s.Untouched st files) (h : s.Course ms t) (hms : ∀ m ∈ ms, m.turn.mayWrite = false) :
    t.Untouched st files := by
  induction h with
  | start => exact hs
  | turn _ ht ih =>
    have hbefore := ih fun m hm => hms m (List.mem_cons_of_mem _ hm)
    exact untouched_turn hst hbefore (hms _ List.mem_cons_self) ht

theorem files_replay {window : Window} {path : String} {config : Config} {tray : Bool}
    {script : Script} {r : Except Settings.SaveError Unit}
    (hscript : ∀ step ∈ script, Script.Step.mayWrite step = false)
    (hbegin : (start window (FileStore.openAt path files) files config).begin tray = .ok s)
    (h : s.replay script = .ok (r, t)) : t.files = files := by
  have hstart : (start window (FileStore.openAt path files) files config).Untouched
      (FileStore.openAt path files) files :=
    ⟨rfl, rfl, rfl, by simp [start], by simp [start, Clock.start]⟩
  have hopened : Follows (fun m => m.turn.mayWrite = false)
      (start window (FileStore.openAt path files) files config) s :=
    follows_begin (fun _ _ => rfl) (fun _ => rfl) (fun _ => rfl) (fun _ => rfl) hbegin
  have hplayed : Follows (fun m => m.turn.mayWrite = false) s t :=
    follows_replay (fun _ _ => rfl) (fun _ _ => rfl)
      (fun step hstep _ x hx => Script.Step.mayWrite_turn (hscript step hstep) hx) (fun _ => rfl) h
  obtain ⟨ms, hcourse, hms⟩ := hopened.trans hplayed
  exact (untouched_course (FileStore.openAt_clean path files).2.1 hstart hcourse hms).files

/-- A record is written only if it is valid, another one, and of a window that has its place, can be
seen and is not minimized. -/
theorem course_gated :
    (∀ {σ : Type} [Store σ] [LawfulStore σ] (window : Window) (store : σ) (files : Tree)
        (config : Config) (ms : List (Moment σ)) (s : Session σ),
      (start window store files config).Course ms s →
      (s.record = (Store.settings store).placement ∨ s.record.fits config.leastSize) ∧
        ∀ x t, s.turn x = .ok t →
          Spares s.store s.files t.store t.files ∨
            ∃ p, Spares (Store.setPlacement p s.store) s.files t.store t.files ∧
              p ≠ s.record ∧ p.fits config.leastSize ∧ s.window.visible ∧
              (Moment.mk s x).savedState ≠ .minimized ∧ ∃ m ∈ ms, m.OpensGate) ∧
    ∀ (monitors : List Monitor) (frame : Margins) (path : String) (files : Tree) (config : Config)
        (tray : Bool) (script : Script) (s t : Session FileStore)
        (r : Except Settings.SaveError Unit),
      (∀ step ∈ script, Script.Step.mayWrite step = false) →
      (start (.onMonitors monitors frame) (FileStore.openAt path files) files config).begin tray =
        .ok s →
      s.replay script = .ok (r, t) → t.files = files := by
  constructor
  · intro σ _ _ window store files config ms s h
    have hconfig : s.config = config := config_course h
    refine ⟨record_course h, ?_⟩
    intro x t ht
    rcases writes_turn ht with hspares | ⟨p, hworth, hspares⟩
    · exact .inl hspares
    · right
      have hfits : p.fits config.leastSize := hconfig ▸ hworth.fits
      exact ⟨p, hspares, hworth.changed, hfits, hworth.visible, hworth.awake,
        placed_course h rfl hworth.placed⟩
  · intro monitors frame path files config tray script s t r hscript hbegin h
    exact files_replay hscript hbegin h

/-- A window that is recorded once it has its place, and a script that only moves and hides one. -/
theorem course_gated_placed :
    let m : Monitor := ⟨"DP-1", ⟨0, 0, 1920, 1080⟩, ⟨0, 0, 1920, 1080⟩, true⟩
    let window : Window :=
      { Window.onMonitors [m] .none with geometry := ⟨560, 240, 800, 600⟩, visible := true }
    (∃ p u, (start window (MemoryStore.ofSettings .initial) .empty .initial).follow
          [.handle .placed, .handle .moved] = .ok p ∧
        p.2.turn (.handle (.placementTimer 1)) = .ok u ∧ u.record ≠ p.2.record ∧
        u.record.fits Config.initial.leastSize ∧ ∃ o ∈ p.1, o.OpensGate) ∧
      ∃ s p, (start (.onMonitors [m] .none) (FileStore.openAt "settings.json" .empty) .empty
          .initial).begin true = .ok s ∧
        s.replay [.move 40 60, .rightColumn (some 300), .close, .wait 3000] = .ok p ∧
        p.2.files = .empty := by
  intro m window
  obtain ⟨hcourses, hreplays⟩ := course_gated
  constructor
  · obtain ⟨⟨ms, s⟩, hfollow, hloaded, u, hu, hnew⟩ :
        ∃ p, (start window (MemoryStore.ofSettings .initial) .empty .initial).follow
            [.handle .placed, .handle .moved] = .ok p ∧ p.2.record = .empty ∧
          ∃ u, p.2.turn (.handle (.placementTimer 1)) = .ok u ∧ u.record ≠ p.2.record := by
      decide +kernel
    have hcourse := course_follow hfollow
    have hfits : u.record.fits Config.initial.leastSize := by
      rcases (hcourses _ _ _ _ _ u (hcourse.turn hu)).1 with hsame | hfits
      · exact absurd (hsame.trans hloaded.symm) hnew
      · exact hfits
    refine ⟨_, u, hfollow, hu, hnew, hfits, ?_⟩
    rcases (hcourses _ _ _ _ _ s hcourse).2 _ u hu with hspares | ⟨p, -, -, -, -, -, hopens⟩
    · exact absurd hspares.placement hnew
    · exact hopens
  · obtain ⟨s, hs, ⟨r, t⟩, ht, -⟩ :
        ∃ s, (start (.onMonitors [m] .none) (FileStore.openAt "settings.json" .empty) .empty
            .initial).begin true = .ok s ∧
          ∃ p, s.replay [.move 40 60, .rightColumn (some 300), .close, .wait 3000] = .ok p ∧
            p.1.isOk := by
      decide +kernel
    exact ⟨s, _, hs, ht, hreplays _ _ _ _ _ _ _ _ _ _ (by decide) hs ht⟩

end Session

end WindowKeeper
