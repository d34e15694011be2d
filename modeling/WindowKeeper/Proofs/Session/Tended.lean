import WindowKeeper.Proofs.Session.Deeds
import WindowKeeper.Proofs.Settings.Saved

namespace WindowKeeper

/-- The result of a write of the settings, if there was one. -/
abbrev Attempt := Option (Except Settings.SaveError Unit)

namespace Core

/-- The settings are of 32-bit numbers, and on file unless a save was requested. -/
structure Sound (path : String) (c : Core FileStore) : Prop where
  location : c.store.path = path
  record : c.store.settings.placement.Fits
  geometry : c.geometry.Fits
  config : c.config.Fits
  clean : c.store.dirty = false → FileStore.openAt path c.files = c.store

/-- Unsaved settings wait for the timer, unless the write of result `last` failed. -/
structure Tended (path : String) (last : Attempt) (c : Core FileStore) : Prop where
  sound : c.Sound path
  unsaved : c.store.dirty → c.settingsTimer.pending ∨ ∃ e, last = some (.error e)

end Core

namespace Session

variable {path : String} {last : Attempt}

/-- What an operation without a write does: it leaves the settings timer alone, or calls it. -/
def Minds (path : String) (last : Attempt) (s t : Session FileStore) : Prop :=
  (t.settingsTimer = s.settingsTimer ∧ t.core.Tended path last) ∨
    (t.settingsTimer.pending ∧ t.core.Sound path)

theorem Minds.tended {s t : Session FileStore} (h : Minds path last s t) :
    t.core.Tended path last := by
  rcases h with ⟨-, h⟩ | ⟨hpending, h⟩
  · exact h
  · exact ⟨h, fun _ => .inl hpending⟩

theorem Minds.trans {s t u : Session FileStore} (h : Minds path last s t)
    (h' : Minds path last t u) : Minds path last s u := by
  rcases h' with ⟨htimer', htended⟩ | h'
  · rcases h with ⟨htimer, -⟩ | ⟨hpending, -⟩
    · exact .inl ⟨htimer'.trans htimer, htended⟩
    · exact .inr ⟨by rw [htimer']; exact hpending, htended.sound⟩
  · exact .inr h'

theorem minds_of_core {s t : Session FileStore} (hs : s.core.Tended path last)
    (h : t.core = s.core) : Minds path last s t := by
  refine .inl ⟨congrArg Core.settingsTimer h, ?_⟩
  rw [h]
  exact hs

/-- What moves the window to a rectangle of 32-bit numbers at most, and leaves the settings, their
file and their timer alone. -/
theorem minds_of_unwritten {s t : Session FileStore} {r : Rect} {state : WindowState}
    {visible quitting maximizedBeforeHide : Bool} {rightColumn : Option Int} {queue : List Event}
    (hs : s.core.Tended path last) (hr : r.Fits)
    (h : t.core = { s.core with
      geometry := r, state := state, visible := visible, quitting := quitting
      maximizedBeforeHide := maximizedBeforeHide, rightColumn := rightColumn, queue := queue }) :
    Minds path last s t := by
  refine .inl ⟨congrArg Core.settingsTimer h, ?_⟩
  rw [h]
  exact ⟨{ hs.sound with geometry := hr }, hs.unsaved⟩

theorem minds_saveLater {s : Session FileStore} {st : FileStore} (h : s.core.Sound path)
    (hpath : st.path = path) (hst : st.settings.placement.Fits) :
    Minds path last s (saveLater { s with store := st }) := by
  refine .inr ⟨rfl, ?_⟩
  rw [core_saveLater]
  exact ⟨hpath, hst, h.geometry, h.config, fun hclean => by cases hclean⟩

theorem minds_storeRecord {s : Session FileStore} {p : Placement} {state : WindowState}
    (hs : s.core.Tended path last) (hp : s.newRecord state = .ok (some p)) :
    Minds path last s (s.storeRecord p) := by
  have hsound := hs.sound
  have hfits := Snapshot.fits_remember hsound.geometry hsound.config.scale hsound.record hp
  exact minds_saveLater hsound hsound.location hfits

theorem minds_enterMode {s : Session FileStore} (hs : s.core.Tended path last) (mode : WorkMode) :
    Minds path last s (s.enterMode mode) := by
  have hsaved : Minds path last s (saveLater { s with store := Store.setWorkMode mode s.store }) :=
    minds_saveLater hs.sound hs.sound.location hs.sound.record
  exact hsaved.trans (.inl ⟨rfl, { hsaved.tended.sound with }, hsaved.tended.unsaved⟩)

/-- Only the event of the settings timer writes anything. -/
theorem Deed.minds {s r : Session FileStore} {x : Turn} (h : Deed x s r)
    (hwrites : ∀ g, x ≠ .handle (.settingsTimer g)) (hfits : x.Fits)
    (hs : s.core.Tended path last) : Minds path last s r := by
  have hgeometry := hs.sound.geometry
  cases h with
  | keep | place | send | attach | detach | setMonitors | advance | callTimer | settle =>
    exact .inl ⟨rfl, { hs.sound with }, hs.unsaved⟩
  | move _ _ fits => exact minds_of_unwritten hs (fits hfits hs.sound.config hgeometry) rfl
  | hide _ hides => exact minds_of_unwritten hs hgeometry (hides.core.trans (core_hide s))
  | wake => exact minds_of_unwritten hs hgeometry (core_activate s)
  | setVisible => exact minds_of_unwritten hs hgeometry (core_setVisible s _)
  | setState | maximize => exact minds_of_unwritten hs hgeometry (core_setState s _)
  | setFocus => exact minds_of_unwritten hs hgeometry (core_setFocus s _)
  | raise => exact minds_of_unwritten hs hgeometry (core_raise s)
  | noteHidden | quit => exact minds_of_unwritten hs hgeometry rfl
  | save _ worth => exact minds_storeRecord hs worth
  | settleSave _ worth =>
    have hsettled : s.settlePlacement.core.Tended path last := ⟨{ hs.sound with }, hs.unsaved⟩
    exact minds_storeRecord (s := s.settlePlacement) hsettled worth
  | enter => exact minds_enterMode hs _
  | enterShown =>
    have hmode := minds_enterMode hs
    exact (hmode _).trans (minds_of_unwritten (hmode _).tended (hmode _).tended.sound.geometry
      (core_activate _))
  | frame => exact minds_saveLater hs.sound hs.sound.location hs.sound.record
  | write event => exact absurd event (hwrites _)

theorem Did.minds {s t : Session FileStore} {x : Turn} (h : Did x s t)
    (hwrites : ∀ g, x ≠ .handle (.settingsTimer g)) (hfits : x.Fits)
    (hs : s.core.Tended path last) : Minds path last s t := by
  obtain ⟨r, hdeed, hcore⟩ := h
  have hr := hdeed.minds hwrites hfits hs
  exact hr.trans (minds_of_core hr.tended hcore)

theorem flush_eq {s : Session FileStore} {r : Except Settings.SaveError Unit} {g : FileStore}
    {u : Tree} (h : s.store.flush s.files = (r, g, u)) :
    flush s = (r, { s with store := g, files := u }) := by
  have hstore : Store.flush s.store s.files = (r, g, u) := h
  rw [flush, hstore]

/-- A write settles what was unsaved, or fails. -/
theorem tended_flush {s u : Session FileStore} {r : Except Settings.SaveError Unit}
    (hs : s.core.Sound path) (h : flush s = (r, u)) : u.core.Tended path (some r) := by
  have hlocation : s.store.path = path := hs.location
  subst hlocation
  cases hd : s.store.dirty with
  | false =>
    rw [flush_eq (FileStore.flush_clean hd s.files)] at h
    cases h
    exact ⟨hs, fun hdirty => absurd (hd.symm.trans hdirty) (by decide)⟩
  | true =>
    cases hf : s.store.flush s.files with
    | mk r' p =>
      obtain ⟨g, v⟩ := p
      rw [flush_eq hf] at h
      cases h
      cases r with
      | ok _ =>
        obtain ⟨rfl, hopen⟩ := FileStore.openAt_flush hs.record hd hf
        exact ⟨⟨hs.location, hs.record, hs.geometry, hs.config, fun _ => hopen⟩,
          fun hdirty => by cases hdirty⟩
      | error e =>
        cases FileStore.flush_error hf
        exact ⟨⟨hs.location, hs.record, hs.geometry, hs.config,
          fun hclean => absurd (hd.symm.trans hclean) (by decide)⟩, fun _ => .inr ⟨e, rfl⟩⟩

theorem tended_shutdown {s t : Session FileStore} {r : Except Settings.SaveError Unit}
    (hs : s.core.Tended path last) (h : shutdown s = .ok (r, t)) :
    t.core.Tended path (some r) := by
  obtain ⟨u, hflush, hu⟩ := shutdown_eq_ok h
  have hsound : u.core.Sound path := by
    split at hu
    · have hcancelled : s.cancelPlacementTimer.core.Tended path last :=
        ⟨{ hs.sound with }, hs.unsaved⟩
      rcases savePlacement_eq_ok hu with ⟨-, rfl⟩ | ⟨p, hp, rfl⟩
      · exact hcancelled.sound
      · exact (minds_storeRecord hcancelled hp).tended.sound
    · rw [hu]
      exact hs.sound
  have hcancelled : u.cancelSettingsTimer.core.Sound path := { hsound with }
  exact tended_flush hcancelled hflush

end Session

end WindowKeeper
