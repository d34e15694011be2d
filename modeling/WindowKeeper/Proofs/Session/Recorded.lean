import WindowKeeper.Proofs.Placement.Remembered
import WindowKeeper.Proofs.Session.Effects
import WindowKeeper.Proofs.Settings.Lawful

namespace WindowKeeper

theorem Snapshot.width_bodyPlacement {s : Snapshot} {ms : List Monitor} {scale : Int}
    {p : Placement} (h : s.bodyPlacement ms scale = .ok p) : p.w = s.body.w - s.rightColumn := by
  obtain ⟨-, c, -, ⟨-, rfl⟩ | ⟨m, -, rfl, -⟩⟩ := bodyPlacement_eq_ok h
  · rfl
  · rfl

/-- What becomes of a store and its files by calls that write no record. -/
inductive Spares {σ : Type} [Store σ] (st : σ) (files : Tree) : σ → Tree → Prop
  | refl : Spares st files st files
  | setWorkMode {su : σ} {t : Tree} {mode : WorkMode} (h : Spares st files su t) :
      Spares st files (Store.setWorkMode mode su) t
  | setNativeFrame {su : σ} {t : Tree} {native : Bool} (h : Spares st files su t) :
      Spares st files (Store.setNativeFrame native su) t
  | requestSave {su : σ} {t : Tree} (h : Spares st files su t) :
      Spares st files (Store.requestSave su) t
  | flush {su sv : σ} {t u : Tree} {r : Except Settings.SaveError Unit}
      (h : Spares st files su t) (flushed : Store.flush su t = (r, sv, u)) : Spares st files sv u

theorem Spares.placement {σ : Type} [Store σ] [LawfulStore σ] {st su : σ} {files t : Tree}
    (h : Spares st files su t) : (Store.settings su).placement = (Store.settings st).placement := by
  induction h with
  | refl => rfl
  | setWorkMode h ih | setNativeFrame h ih | requestSave h ih => simpa using ih
  | @flush su sv t u r h flushed ih =>
    have hsettings := LawfulStore.settings_flush su t
    rw [flushed] at hsettings
    rw [hsettings]
    exact ih

namespace Session

variable {σ : Type} [Store σ] {s t : Session σ} {x : Turn} {state : WindowState} {p : Placement}

/-- A record worth writing for the window in a state. -/
structure Worth (s : Session σ) (state : WindowState) (p : Placement) : Prop where
  placed : s.placed
  visible : s.window.visible
  awake : state ≠ .minimized
  candidate : (s.snapshot state).candidate s.record s.window.monitors s.config.scale = .ok p
  fits : p.fits s.config.leastSize
  changed : p ≠ s.record

theorem worth_of_newRecord (h : s.newRecord state = .ok (some p)) : s.Worth state p := by
  obtain ⟨hworth, hcandidate, hfits, hchanged⟩ := Snapshot.remember_eq_some h
  simp only [Snapshot.worthSaving, Bool.and_eq_true, decide_eq_true_eq] at hworth
  obtain ⟨⟨hawake, hvisible⟩, hplaced⟩ := hworth
  exact ⟨hplaced, hvisible, hawake, hcandidate, hfits, hchanged⟩

/-- A record is the old one with its flag, or of the body of a window that is not maximized. -/
theorem Worth.flag_or_body (h : s.Worth state p) :
    p = { s.record with maximized := true } ∨ state ≠ .maximized ∧
      (s.snapshot state).bodyPlacement s.window.monitors s.config.scale = .ok p := by
  have hcandidate := h.candidate
  by_cases hstate : state = .maximized
  · rw [Snapshot.candidate, if_pos (show (s.snapshot state).state = _ from hstate)] at hcandidate
    cases hcandidate
    exact .inl rfl
  · rw [Snapshot.candidate, if_neg (show (s.snapshot state).state ≠ _ from hstate)] at hcandidate
    exact .inr ⟨hstate, hcandidate⟩

/-- A turn writes at most one record, and only one that is worth writing. -/
theorem writes_turn (h : s.turn x = .ok t) :
    Spares s.store s.files t.store t.files ∨
      ∃ p, s.Worth (Moment.mk s x).savedState p ∧
        Spares (Store.setPlacement p s.store) s.files t.store t.files := by
  cases (frames_turn h).stores with
  | keep store files =>
    left
    rw [store, files]
    exact .refl
  | flush flushed => exact .inl (Spares.refl.flush flushed)
  | mode event store files =>
    left
    rw [store, files]
    exact .requestSave (.setWorkMode .refl)
  | frame event store files =>
    left
    rw [store, files]
    exact .requestSave (.setNativeFrame .refl)
  | save worth store files =>
    refine .inr ⟨_, worth_of_newRecord worth, ?_⟩
    rw [store, files]
    exact .requestSave .refl
  | saveFlush worth flushed =>
    exact .inr ⟨_, worth_of_newRecord worth, (Spares.refl.requestSave).flush flushed⟩

/-- The record changes only by one that is worth writing. -/
theorem record_turn [LawfulStore σ] (h : s.turn x = .ok t) :
    t.record = s.record ∨ s.Worth (Moment.mk s x).savedState t.record := by
  rcases writes_turn h with hspares | ⟨p, hworth, hspares⟩
  · exact .inl hspares.placement
  · right
    have hrecord : t.record = p := by
      refine hspares.placement.trans ?_
      rw [LawfulStore.settings_setPlacement]
    rw [hrecord]
    exact hworth

end Session

end WindowKeeper
