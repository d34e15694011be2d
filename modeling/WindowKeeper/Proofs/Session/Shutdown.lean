import WindowKeeper.Proofs.Script.LastMove
import WindowKeeper.Proofs.Session.Effects
import WindowKeeper.Proofs.Session.Unsaved

namespace WindowKeeper

namespace FileStore

/-- Only unsaved settings can fail to be written. -/
theorem dirty_of_flush {f g : FileStore} {t u : Tree} {e : Settings.SaveError}
    (h : f.flush t = (.error e, g, u)) : g.dirty := by
  cases hdirty : f.dirty with
  | false =>
    rw [flush_clean hdirty] at h
    cases h
  | true =>
    rw [flush_error h]
    exact hdirty

end FileStore

namespace Session

section
variable {σ : Type} [Store σ] {s t u : Session σ}

theorem idle_shutdown {r : Except Settings.SaveError Unit} (h : shutdown s = .ok (r, t)) :
    t.placementTimer.pending = false ∧ t.settingsTimer.pending = false := by
  obtain ⟨u, hflush, hu⟩ := shutdown_eq_ok h
  have ht : t = (flush u.cancelSettingsTimer).2 := congrArg Prod.snd hflush.symm
  subst ht
  constructor
  · change u.placementTimer.pending = false
    split at hu
    · have hcancelled : s.cancelPlacementTimer.placementTimer.pending = false :=
        Timer.pending_cancel _ _ _
      rcases savePlacement_eq_ok hu with ⟨-, rfl⟩ | ⟨p, -, rfl⟩
      · exact hcancelled
      · exact hcancelled
    · rename_i hidle
      rw [hu]
      simpa using hidle
  · exact Timer.pending_cancel _ _ _

/-- In each turn a timer is called at most once. -/
theorem called_course {ms : List (Moment σ)} (h : t.Course ms u) :
    t.placementTimer.Called ms.length u.placementTimer ∧
      t.settingsTimer.Called ms.length u.settingsTimer := by
  induction h with
  | start => exact ⟨Timer.called_refl _ _, Timer.called_refl _ _⟩
  | turn _ hturn ih =>
    have hframes := frames_turn hturn
    exact ⟨ih.1.trans hframes.placementTimer, ih.2.trans hframes.settingsTimer⟩

/-- A timer event from before a call that was cancelled is turned away, however late it comes, until
the numbers of the calls are used up. -/
theorem handle_late {ms : List (Moment σ)} (h : t.Course ms u) {n : Nat}
    (hn : n + ms.length < UInt64.size) :
    (t.placementTimer.pending = false →
      handle u (.placementTimer (t.placementTimer.generation - .ofNat n)) = .ok u) ∧
    (t.settingsTimer.pending = false →
      handle u (.settingsTimer (t.settingsTimer.generation - .ofNat n)) = .ok u) := by
  obtain ⟨hplacement, hsettings⟩ := called_course h
  constructor
  · intro hidle
    rw [handle_placementTimer, hplacement.turns_away hidle hn]
    rfl
  · intro hidle
    rw [handle_settingsTimer, hsettings.turns_away hidle hn]
    rfl

end

variable {path : String} {last : Attempt} {s t : Session FileStore}

theorem dirty_shutdown {e : Settings.SaveError} (h : shutdown s = .ok (.error e, t)) :
    t.store.dirty := by
  obtain ⟨u, hflush, -⟩ := shutdown_eq_ok h
  cases hf : u.store.flush u.files with
  | mk r p =>
    obtain ⟨g, v⟩ := p
    have hwritten := flush_eq (s := u.cancelSettingsTimer) hf
    rw [hflush] at hwritten
    cases hwritten
    exact FileStore.dirty_of_flush hf

/-- After a shutdown no timer waits, and the file holds the settings or the error tells that it does
not. The placement that waited for rest is in the settings either way. -/
theorem reached_shutdown {r : Except Settings.SaveError Unit} (h : Reached path s last)
    (hshutdown : shutdown s = .ok (r, t)) :
    (t.placementTimer.pending = false ∧ t.settingsTimer.pending = false) ∧
    (r = .ok () → t.store.dirty = false ∧ FileStore.openAt path t.files = t.store) ∧
    (∀ e, r = .error e → t.store.dirty) ∧
    (if s.placementTimer.pending then s.savedRecord = .ok t.record else t.record = s.record) ∧
    ∀ ms u, t.Course ms u → ∀ n, n + ms.length < UInt64.size →
      handle u (.placementTimer (t.placementTimer.generation - .ofNat n)) = .ok u ∧
      handle u (.settingsTimer (t.settingsTimer.generation - .ofNat n)) = .ok u := by
  obtain ⟨hplacement, hsettings⟩ := idle_shutdown hshutdown
  have htended := tended_shutdown h.tended hshutdown
  refine ⟨⟨hplacement, hsettings⟩, ?_, ?_, record_shutdown hshutdown, ?_⟩
  · rintro rfl
    have hclean : t.store.dirty = false := by
      cases hdirty : t.store.dirty with
      | false => rfl
      | true =>
        -- nothing is left to wait for, and the write did not fail
        rcases htended.unsaved hdirty with hpending | ⟨e, he⟩
        · have hidle : t.core.settingsTimer.pending = false := hsettings
          rw [hidle] at hpending
          cases hpending
        · cases he
    exact ⟨hclean, htended.sound.clean hclean⟩
  · rintro e rfl
    exact dirty_shutdown hshutdown
  · intro ms u hcourse n hn
    obtain ⟨hlate, hlate'⟩ := handle_late hcourse hn
    exact ⟨hlate hplacement, hlate' hsettings⟩

/-- A session that is shut down while a move waits for rest. The window moves once more after that,
and then the timer event of the first move comes. -/
theorem reached_shutdown_moved :
    let m : Monitor := ⟨"DP-1", ⟨0, 0, 1920, 1080⟩, ⟨0, 0, 1920, 1080⟩, true⟩
    ∃ s last t u, Reached "settings.json" s last ∧ s.placementTimer.pending ∧
      shutdown s = .ok (.ok (), t) ∧ t.store.dirty = false ∧
      FileStore.openAt "settings.json" t.files = t.store ∧ s.savedRecord = .ok t.record ∧
      t.record = ⟨560, 240, 800, 600, 100, false, m.checksum⟩ ∧
      t.turn (.handle .moved) = .ok u ∧ u.placementTimer.pending ∧
      handle u (.placementTimer s.placementTimer.generation) = .ok u := by
  intro m
  let window : Window :=
    { Window.onMonitors [m] .none with geometry := ⟨560, 240, 800, 600⟩, visible := true }
  obtain ⟨a, ha, s, hs, hpending, ⟨r, t⟩, ht, hwritten, hrecord, hgeneration, u, hu, hagain⟩ :
      ∃ a, handle (.start window (FileStore.openAt "settings.json" .empty) .empty .initial)
          .placed = .ok a ∧
        ∃ s, handle a .moved = .ok s ∧ s.placementTimer.pending ∧
          ∃ p, shutdown s = .ok p ∧ p.1.isOk ∧
            p.2.record = ⟨560, 240, 800, 600, 100, false, m.checksum⟩ ∧
            p.2.placementTimer.generation = s.placementTimer.generation ∧
            ∃ u, p.2.turn (.handle .moved) = .ok u ∧ u.placementTimer.pending := by
    decide +kernel
  have hstart : Reached "settings.json" (.start window
      (FileStore.openAt "settings.json" .empty) .empty .initial) none :=
    .start (by constructor <;> decide) ⟨by decide, by constructor <;> decide,
      by constructor <;> decide⟩
  have hreached := (hstart.handle ha).handle hs
  cases r with
  | error e => cases hwritten
  | ok _ =>
    obtain ⟨-, hclean, -, hsaved, hlate⟩ := reached_shutdown hreached ht
    have hone : 0 + 1 < UInt64.size := by decide
    obtain ⟨hplacement, -⟩ := hlate _ u (Course.start.turn hu) 0 hone
    rw [hgeneration, show UInt64.ofNat 0 = 0 from rfl, UInt64.sub_zero] at hplacement
    rw [if_pos hpending] at hsaved
    exact ⟨s, _, t, u, hreached, hpending, ht, (hclean rfl).1, (hclean rfl).2, hsaved, hrecord, hu,
      hagain, hplacement⟩

end Session

end WindowKeeper
