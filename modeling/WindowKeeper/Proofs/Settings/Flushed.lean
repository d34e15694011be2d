import WindowKeeper.Proofs.Settings.Lawful
import WindowKeeper.Proofs.Settings.Replaced

namespace WindowKeeper.FileStore

open Settings (loadFrom save saveWithRetry temporaryPath)

variable {path : String} {f g : FileStore} {t u : Tree}

/-- The stores that come of opening a file and using the store, each with the files there are. What
happens to the files between two calls is not up to the store. -/
inductive Reached (path : String) : FileStore → Tree → Prop
  /-- The store is opened, or opened again. -/
  | opened (t : Tree) : Reached path (openAt path t) t
  | setPlacement {f : FileStore} {t : Tree} {p : Placement} (h : Reached path f t) (hp : p.Fits) :
      Reached path (Store.setPlacement p f) t
  | setWorkMode {f : FileStore} {t : Tree} (h : Reached path f t) (m : WorkMode) :
      Reached path (Store.setWorkMode m f) t
  | setNativeFrame {f : FileStore} {t : Tree} (h : Reached path f t) (b : Bool) :
      Reached path (Store.setNativeFrame b f) t
  | requestSave {f : FileStore} {t : Tree} (h : Reached path f t) :
      Reached path (Store.requestSave f) t
  | flushed {f g : FileStore} {t u : Tree} {r : Except Settings.SaveError Unit}
      (h : Reached path f t) (hflush : f.flush t = (r, g, u)) : Reached path g u
  | changed {f : FileStore} {t : Tree} (h : Reached path f t) (u : Tree) : Reached path f u

theorem path_flush (f : FileStore) (t : Tree) : (f.flush t).2.1.path = f.path := by
  unfold flush
  split
  · split <;> rfl
  · rfl

/-- A store stays with its file, and its settings stay of 32-bit numbers. -/
theorem Reached.fits (h : Reached path f t) : f.path = path ∧ f.settings.placement.Fits := by
  induction h with
  | opened t =>
    obtain ⟨hpath, -, hfits⟩ := openAt_clean path t
    exact ⟨hpath, hfits⟩
  | setPlacement h hp ih => exact ⟨ih.1, hp⟩
  | setWorkMode h m ih => exact ih
  | setNativeFrame h b ih => exact ih
  | requestSave h ih => exact ih
  | flushed h hflush ih =>
    rename_i f g t u r
    have hpath := path_flush f t
    have hsettings := settings_flush f t
    rw [hflush] at hpath hsettings
    exact ⟨hpath.trans ih.1, hsettings ▸ ih.2⟩
  | changed h u ih => exact ih

/-- A flush of a store that has something to write saves once. -/
theorem flush_dirty (hdirty : f.dirty) (t : Tree) :
    f.flush t = match save f.path f.settings t with
      | (.ok (), u) => (.ok (), { f with dirty := false }, u)
      | (.error e, u) => (.error e, f, u) := by
  rcases hsave : save f.path f.settings t with ⟨r, u⟩
  cases r <;> simp [flush, hdirty, Settings.saveWithRetry_eq_save, hsave]

theorem flush_eq_ok (hdirty : f.dirty) (h : f.flush t = (.ok (), g, u)) :
    g = { f with dirty := false } ∧ save f.path f.settings t = (.ok (), u) := by
  rw [flush_dirty hdirty] at h
  split at h
  · rename_i hsave
    cases h
    exact ⟨rfl, hsave⟩
  · cases h

theorem flush_eq_error {e : Settings.SaveError} :
    f.flush t = (.error e, g, u) ↔
      f.dirty ∧ g = f ∧ save f.path f.settings t = (.error e, u) := by
  cases hdirty : f.dirty with
  | false => simp [flush_clean hdirty]
  | true =>
    rw [flush_dirty hdirty]
    generalize save f.path f.settings t = saved
    obtain ⟨r, v⟩ := saved
    cases r <;> simp [and_left_comm, eq_comm]

/-- A flush does nothing if there is nothing to write. If it succeeds, the file has the settings of
the store and the temporary file is gone; if it fails, the store and all but the temporary file are
as they were, and it fails again. Attempts after the first make no difference. -/
theorem reached_flush {r : Except Settings.SaveError Unit} (h : Reached path f t)
    (hflush : f.flush t = (r, g, u)) :
    (f.dirty = false → r = .ok () ∧ g = f ∧ u = t) ∧
    (f.dirty → r = .ok () → g = { f with dirty := false } ∧ loadFrom u path = .ok f.settings ∧
      u.find? (temporaryPath path) = none ∧ Tree.SameBut [path, temporaryPath path] t u) ∧
    (∀ e, r = .error e → f.dirty ∧ g = f ∧ Tree.SameBut [temporaryPath path] t u ∧
      u.find? path = t.find? path ∧ f.flush u = (.error e, f, u)) ∧
    saveWithRetry path f.settings t = save path f.settings t := by
  obtain ⟨rfl, hfits⟩ := h.fits
  refine ⟨fun hclean => ?_, fun hdirty hr => ?_, fun e hr => ?_,
    Settings.saveWithRetry_eq_save _ _ _⟩
  · rw [flush_clean hclean] at hflush
    cases hflush
    exact ⟨rfl, rfl, rfl⟩
  · subst hr
    obtain ⟨hg, hsave⟩ := flush_eq_ok hdirty hflush
    have hsame := Settings.sameBut_save f.path f.settings t
    rw [hsave] at hsame
    exact ⟨hg, Settings.loadFrom_saved hfits (Settings.find?_save hsave),
      Settings.find?_temporaryPath_saved hsave, hsame⟩
  · subst hr
    obtain ⟨hdirty, hg, hsave⟩ := flush_eq_error.mp hflush
    obtain ⟨hsame, hkept⟩ := Settings.sameBut_unsaved hsave
    exact ⟨hdirty, hg, hsame, hkept, flush_eq_error.mpr ⟨hdirty, rfl, Settings.save_again hsave⟩⟩

/-- A directory stands where the settings file is to be. Nothing is written until it is gone. -/
theorem reached_flush_blocked :
    let s : Settings := ⟨⟨40, -60, 800, 600, 125, true, 679109651⟩, .windowAndTray, false⟩
    let f : FileStore := ⟨"settings.json", s, true⟩
    let blocked : Tree := ⟨[(["settings.json"], .directory)]⟩
    let freed : Tree := ⟨[(["settings.json.tmp"], .file (.text s.toText))]⟩
    (∃ e u, f.flush blocked = (.error e, f, u) ∧
      Tree.SameBut [temporaryPath "settings.json"] blocked u ∧
      u.find? "settings.json" = blocked.find? "settings.json" ∧ f.flush u = (.error e, f, u)) ∧
    ∃ u, f.flush freed = (.ok (), { f with dirty := false }, u) ∧
      loadFrom u "settings.json" = .ok s ∧ u.find? (temporaryPath "settings.json") = none := by
  intro s f blocked freed
  have hreached (t : Tree) : Reached "settings.json" f t := by
    have hs : s.placement.Fits := by constructor <;> decide
    exact (((Reached.opened .empty).setPlacement hs).requestSave).changed t
  have hblocked : (f.flush blocked).1.isOk = false := by decide +kernel
  have hfreed : (f.flush freed).1.isOk = true := by decide +kernel
  constructor
  · rcases hflush : f.flush blocked with ⟨r, g, u⟩
    rw [hflush] at hblocked
    obtain ⟨-, -, herror, -⟩ := reached_flush (hreached blocked) hflush
    cases r with
    | ok _ => cases hblocked
    | error e =>
      obtain ⟨-, rfl, hsame, hkept, hagain⟩ := herror e rfl
      exact ⟨e, u, rfl, hsame, hkept, hagain⟩
  · rcases hflush : f.flush freed with ⟨r, g, u⟩
    rw [hflush] at hfreed
    obtain ⟨-, hok, -, -⟩ := reached_flush (hreached freed) hflush
    cases r with
    | ok _ =>
      obtain ⟨rfl, hload, hgone, -⟩ := hok rfl rfl
      exact ⟨u, rfl, hload, hgone⟩
    | error e => cases hfreed

end WindowKeeper.FileStore
