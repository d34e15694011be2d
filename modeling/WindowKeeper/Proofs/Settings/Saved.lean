import WindowKeeper.Proofs.Files.Replaced
import WindowKeeper.Proofs.Form.Settings
import WindowKeeper.Settings.Store

namespace WindowKeeper

namespace Settings

theorem find?_save {path : String} {s : Settings} {t u : Tree} (h : save path s t = (.ok (), u)) :
    u.find? path = some (.file (.text s.toText)) := by
  simp only [save, saveEffects, FileEffect.perform, FileEffect.apply?] at h
  cases hw : t.write? (temporaryPath path) s.toText with
  | none => simp [hw] at h
  | some v =>
    cases hr : (v.remove path).rename? (temporaryPath path) path with
    | none => simp [hw, hr] at h
    | some w =>
      simp only [hw, hr] at h
      cases h
      obtain ⟨c, hc, hfound⟩ := Tree.find?_rename hr
      have hwritten := Tree.find?_write hw
      rw [Tree.find?_remove hc] at hwritten
      cases hwritten
      exact hfound

theorem find?_saveAgain {path : String} {s : Settings} {n : Nat} {t u : Tree}
    (h : saveAgain path s n t = (.ok (), u)) :
    u.find? path = some (.file (.text s.toText)) := by
  induction n generalizing t with
  | zero => exact find?_save h
  | succ n ih =>
    rw [saveAgain] at h
    split at h
    · rename_i v hsave
      cases h
      exact find?_save hsave
    · exact ih h

theorem loadFrom_saved {path : String} {s : Settings} {t : Tree} (hs : s.placement.Fits)
    (h : t.find? path = some (.file (.text s.toText))) : loadFrom t path = .ok s := by
  have hsize := utf8ByteSize_toText hs
  have hlength : ¬ largestFile < (FileContent.text s.toText).length := by
    change ¬ 65536 < s.toText.utf8ByteSize
    omega
  simp only [loadFrom, h, if_neg hlength, ofText_toText hs]
  rfl

/-- Settings that can be loaded are of 32-bit numbers. -/
theorem fits_of_loadFrom {path : String} {s : Settings} {t : Tree} (h : loadFrom t path = .ok s) :
    s.placement.Fits := by
  unfold loadFrom at h
  split at h
  · cases h
  · cases h
  · split at h
    · cases h
    · split at h
      · exact fits_of_ofText (mapError_eq_ok.mp h)
      · cases h

end Settings

namespace FileStore

theorem openAt_of_loaded {path : String} {t : Tree} {s : Settings}
    (h : Settings.loadFrom t path = .ok s) : openAt path t = ⟨path, s, false⟩ := by
  rw [openAt, h]

theorem openAt_clean (path : String) (t : Tree) :
    (openAt path t).path = path ∧ (openAt path t).dirty = false ∧
      (openAt path t).settings.placement.Fits := by
  unfold openAt
  split
  · rename_i s hs
    exact ⟨rfl, rfl, Settings.fits_of_loadFrom hs⟩
  · exact ⟨rfl, rfl, Placement.fits_empty⟩

theorem flush_clean {f : FileStore} (h : f.dirty = false) (t : Tree) :
    f.flush t = (.ok (), f, t) := by
  rw [flush, if_neg (by simp [h])]

theorem flush_error {f g : FileStore} {t u : Tree} {e : Settings.SaveError}
    (h : f.flush t = (.error e, g, u)) : g = f := by
  unfold flush at h
  split at h
  · split at h
    · cases h
    · cases h
      rfl
  · cases h

/-- A store that was written is the one that is opened on its file afterwards. -/
theorem openAt_flush {f g : FileStore} {t u : Tree} (hf : f.settings.placement.Fits)
    (hdirty : f.dirty) (h : f.flush t = (.ok (), g, u)) :
    g = { f with dirty := false } ∧ openAt f.path u = g := by
  simp only [flush, if_pos hdirty] at h
  split at h
  · rename_i v hsave
    cases h
    exact ⟨rfl, openAt_of_loaded (Settings.loadFrom_saved hf (Settings.find?_saveAgain hsave))⟩
  · cases h

end FileStore

end WindowKeeper
