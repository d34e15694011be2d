import WindowKeeper.Proofs.Session.Tended

namespace WindowKeeper

namespace Session

variable {path : String} {last : Attempt}

/-- The write that handling an event attempts, if it does. -/
def attempt? (s : Session FileStore) : Event → Attempt
  | .settingsTimer g => if s.settingsTimer.awaits g then some (flush s).1 else none
  | _ => none

/-- The write attempted since the settings timer was last called, if there was one: `new`, or the
one before if the timer was not called in the step from `s` to `t`. -/
def latest (s t : Session FileStore) (new before : Attempt) : Attempt :=
  new <|> if t.settingsTimer.generation = s.settingsTimer.generation then before else none

/-- The sessions that a run can reach, from a store opened on its file, with the result of the
write that was attempted since the settings timer was last called. Nothing else writes the files,
but a write may find any reason to fail. -/
inductive Reached (path : String) : Session FileStore → Attempt → Prop
  | start {w : Window} {files : Tree} {config : Config} (hw : w.geometry.Fits)
      (hconfig : config.Fits) :
      Reached path (.start w (FileStore.openAt path files) files config) none
  | act {s t : Session FileStore} {last : Attempt} {a : Action} {reply : Reply}
      (hs : Reached path s last) (hstep : a.isStep) (hfits : a.Fits)
      (h : s.act a = .ok (reply, t)) : Reached path t (latest s t none last)
  | handle {s t : Session FileStore} {last : Attempt} {e : Event} (hs : Reached path s last)
      (h : s.handle e = .ok t) : Reached path t (latest s t (s.attempt? e) last)
  /-- The next event is taken from the queue or from the clock, to be handled. -/
  | take {s t : Session FileStore} {last : Attempt} {deadline : Nat} {e : Event}
      (hs : Reached path s last) (h : s.nextEvent? deadline = some (e, t)) : Reached path t last
  | pass {s : Session FileStore} {last : Attempt} (hs : Reached path s last) (now : Nat) :
      Reached path (s.setTime now) last
  | shutdown {s t : Session FileStore} {last : Attempt} {r : Except Settings.SaveError Unit}
      (hs : Reached path s last) (h : s.shutdown = .ok (r, t)) : Reached path t (some r)
  /-- While a change waits to be written, writes that fail may leave the files in any condition. -/
  | spoil {s : Session FileStore} {last : Attempt} (hs : Reached path s last)
      (hdirty : s.store.dirty) (files : Tree) : Reached path { s with files := files } last

theorem Minds.latest {s t : Session FileStore} (h : Minds path last s t) :
    t.core.Tended path (latest s t none last) := by
  rcases h with ⟨htimer, htended⟩ | ⟨hpending, hsound⟩
  · rw [Session.latest, htimer, if_pos rfl]
    exact htended
  · exact ⟨hsound, fun _ => .inl hpending⟩

theorem tended_handle {s t : Session FileStore} {e : Event} (hs : s.core.Tended path last)
    (h : handle s e = .ok t) : t.core.Tended path (latest s t (s.attempt? e) last) := by
  by_cases he : ∃ g, e = .settingsTimer g
  · obtain ⟨g, rfl⟩ := he
    rw [handle_settingsTimer] at h
    cases h
    rw [latest, attempt?]
    split
    · have hsettled : s.settleSettings.core.Sound path := { hs.sound with }
      exact tended_flush hsettled rfl
    · simpa using hs
  · have hwrites : ∀ g, Turn.handle e ≠ .handle (.settingsTimer g) := by
      intro g hg
      cases hg
      exact he ⟨g, rfl⟩
    have hminds := (does_handle h).did.minds hwrites trivial hs
    have hnone : s.attempt? e = none := by
      cases e with
      | settingsTimer g => exact absurd ⟨g, rfl⟩ he
      | _ => rfl
    rw [hnone]
    exact hminds.latest

theorem Reached.tended {s : Session FileStore} (h : Reached path s last) :
    s.core.Tended path last := by
  induction h with
  | @start w files config hw hconfig =>
    -- a store that was just opened is what its file gives
    obtain ⟨hlocation, hclean, hfits⟩ := FileStore.openAt_clean path files
    refine ⟨⟨hlocation, hfits, hw, hconfig, fun _ => rfl⟩, fun hdirty => ?_⟩
    exact absurd (hclean.symm.trans hdirty) (by decide)
  | act hs hstep hfits h ih => exact ((does_act hstep h).did.minds nofun hfits ih).latest
  | handle hs h ih => exact tended_handle ih h
  | take hs h ih =>
    rcases nextEvent_eq_some h with ⟨es, -, rfl⟩ | ⟨-, c, -, rfl⟩
    · exact ⟨{ ih.sound with }, ih.unsaved⟩
    · exact ⟨{ ih.sound with }, ih.unsaved⟩
  | pass hs now ih => exact ⟨{ ih.sound with }, ih.unsaved⟩
  | shutdown hs h ih => exact tended_shutdown ih h
  | spoil hs hdirty files ih =>
    exact ⟨{ ih.sound with clean := fun hclean => absurd (hclean.symm.trans hdirty) (by decide) },
      ih.unsaved⟩

theorem Reached.turn {s t : Session FileStore} {x : Turn} (hs : Reached path s last)
    (hfits : x.Fits) (h : s.turn x = .ok t) : ∃ after, Reached path t after := by
  cases x with
  | act a single =>
    obtain ⟨⟨reply, u⟩, hu, rfl⟩ := map_eq_ok.mp h
    exact ⟨_, hs.act single hfits hu⟩
  | handle e => exact ⟨_, hs.handle h⟩
  | next deadline =>
    rcases turn_next_cases h with ⟨-, rfl⟩ | ⟨e, r, hn, hr⟩
    · exact ⟨_, hs⟩
    · exact ⟨_, (hs.take hn).handle hr⟩
  | pass now =>
    cases h
    exact ⟨_, hs.pass now⟩
  | shutdown =>
    obtain ⟨⟨r, u⟩, hu, rfl⟩ := map_eq_ok.mp h
    exact ⟨_, hs.shutdown hu⟩

theorem Reached.follows {s t : Session FileStore} (hs : Reached path s last)
    (h : Follows (fun m => m.turn.Fits) s t) : ∃ after, Reached path t after := by
  obtain ⟨ms, hcourse, hfits⟩ := h
  induction hcourse with
  | start => exact ⟨last, hs⟩
  | turn _ ht ih =>
    obtain ⟨hx, hms⟩ := List.forall_mem_cons.mp hfits
    obtain ⟨_, hr⟩ := ih hms
    exact hr.turn hx ht

/-- Every action leads from a session that can be reached to another one, however many events it
handles. -/
theorem Reached.act_any {s t : Session FileStore} {a : Action} {reply : Reply}
    (hs : Reached path s last) (hfits : a.Fits) (h : s.act a = .ok (reply, t)) :
    ∃ after, Reached path t after := by
  refine hs.follows (follows_act (fun r x hx => ?_) h)
  cases x with
  | act b single =>
    cases hx b single rfl
    exact hfits
  | _ => trivial

/-- What is not on file waits for the settings timer, unless the write since its last call
failed. -/
theorem reached_saved_or_due {s : Session FileStore} (h : Reached path s last) :
    (s.store.dirty = false → FileStore.openAt path s.files = s.store) ∧
      (s.store.dirty → s.settingsTimer.pending ∨ ∃ e, last = some (.error e)) :=
  ⟨h.tended.sound.clean, h.tended.unsaved⟩

/-- A change whose write fails because the directory of the file is missing. -/
theorem reached_saved_or_due_missing :
    ∃ s last, Reached "missing/settings.json" s last ∧ s.store.dirty ∧
      s.settingsTimer.pending = false ∧
      (s.store.dirty = false → FileStore.openAt "missing/settings.json" s.files = s.store) ∧
      (s.store.dirty → s.settingsTimer.pending ∨ ∃ e, last = some (.error e)) := by
  have hstart : Reached "missing/settings.json" (.start (.onMonitors [] .none)
      (FileStore.openAt "missing/settings.json" .empty) .empty .initial) none :=
    .start (by constructor <;> decide) ⟨by decide, by constructor <;> decide,
      by constructor <;> decide⟩
  obtain ⟨s, hs, t, ht, hdirty, hpending⟩ :
      ∃ s, handle (.start (.onMonitors [] .none)
        (FileStore.openAt "missing/settings.json" .empty) .empty .initial)
          (.workModeChanged .trayOnly) = .ok s ∧
        ∃ t, handle s (.settingsTimer 1) = .ok t ∧ t.store.dirty ∧
          t.settingsTimer.pending = false := by
    decide +kernel
  have hreached := (hstart.handle hs).handle ht
  exact ⟨t, _, hreached, hdirty, hpending, reached_saved_or_due hreached⟩

end Session

end WindowKeeper
