import WindowKeeper.Proofs.Files.Located
import WindowKeeper.Proofs.Settings.Saved

namespace WindowKeeper

namespace Settings

variable {path : String} {s : Settings} {t u v : Tree} {k : Location}

/-- The temporary file is in the same directory as the settings file. -/
theorem locate_temporaryPath (hk : t.locate path = some k) (hfile : t.isDirectory k = false) :
    ∃ d name, k = d ++ [name] ∧
      t.locate (temporaryPath path) = some (d ++ [Path.renamed name "json.tmp"]) :=
  Tree.locate_withExtension (by decide) (by decide) hk hfile

/-- The temporary file is another one than the settings file. -/
theorem locate_temporaryPath_ne (hk : t.locate path = some k) (hfile : t.isDirectory k = false) :
    t.locate path ≠ t.locate (temporaryPath path) := by
  obtain ⟨d, name, rfl, hl⟩ := locate_temporaryPath hk hfile
  intro heq
  have hsame := Option.some.inj (hk.symm.trans (heq.trans hl))
  have hname := (List.cons.inj (List.append_cancel_left hsame)).1
  exact Path.renamed_ne (by decide) hname.symm

/-- What was written beside the settings file is still there when that file has been removed. -/
theorem find?_temporaryPath_removed (hw : t.write? (temporaryPath path) s.toText = some v)
    (hk : t.locate path = some k) (hfile : t.isDirectory k = false) :
    (v.remove path).find? (temporaryPath path) = some (.file (.text s.toText)) := by
  have hput := Tree.SameBut.write hw
  have hother : ∀ p ∈ [path], v.locate p ≠ v.locate (temporaryPath path) := by
    intro p hp
    rw [List.mem_singleton.mp hp, hput.locate, hput.locate]
    exact locate_temporaryPath_ne hk hfile
  rw [(Tree.SameBut.remove v path).find? hother]
  exact Tree.find?_write hw

/-- The ways in which a save can end. -/
inductive Saving (path : String) (s : Settings) (t : Tree) : Except SaveError Unit × Tree → Prop
  | unwritten (hw : t.write? (temporaryPath path) s.toText = none) :
      Saving path s t (.error .notWritten, t)
  | unrenamed {v : Tree} (hw : t.write? (temporaryPath path) s.toText = some v)
      (hpath : ∀ k, t.locate path = some k → t.isDirectory k) :
      Saving path s t (.error .notRenamed, v)
  | replaced {v u : Tree} {k : Location} (hw : t.write? (temporaryPath path) s.toText = some v)
      (hk : t.locate path = some k) (hfile : t.isDirectory k = false)
      (hr : (v.remove path).rename? (temporaryPath path) path = some u) :
      Saving path s t (.ok (), u)

theorem saving (path : String) (s : Settings) (t : Tree) : Saving path s t (save path s t) := by
  unfold save saveEffects
  simp only [FileEffect.perform, FileEffect.apply?]
  cases hw : t.write? (temporaryPath path) s.toText with
  | none => exact .unwritten hw
  | some v =>
    have hput := Tree.SameBut.write hw
    by_cases hfile : ∃ k, t.locate path = some k ∧ t.isDirectory k = false
    · obtain ⟨k, hk, hfile⟩ := hfile
      have hfound := find?_temporaryPath_removed hw hk hfile
      rw [Tree.find?, Option.bind_eq_some_iff] at hfound
      obtain ⟨l, hl, hc⟩ := hfound
      have hremove := Tree.SameBut.remove v path
      have hr := Tree.rename?_eq_some.mpr ⟨l, k, _, hl, by rw [hremove.locate, hput.locate, hk], hc,
        by rw [hremove.isDirectory, hput.isDirectory, hfile], rfl⟩
      simp only [hr]
      exact .replaced hw hk hfile hr
    · have hpath : ∀ k, t.locate path = some k → t.isDirectory k := by
        intro k hk
        by_contra hdir
        exact hfile ⟨k, hk, by simpa using hdir⟩
      have hremove : v.remove path = v := by
        refine Tree.remove_eq_self fun k hk => ?_
        rw [hput.locate] at hk
        rw [hput.isDirectory, hpath k hk]
      have hr : v.rename? (temporaryPath path) path = none := by
        refine Option.eq_none_iff_forall_ne_some.mpr fun u hu => ?_
        obtain ⟨_, k, _, -, hk, -, hdir, -⟩ := Tree.rename?_eq_some.mp hu
        rw [hput.locate] at hk
        rw [hput.isDirectory, hpath k hk] at hdir
        cases hdir
      simp only [hremove, hr]
      exact .unrenamed hw hpath

/-- A save that fails can be tried again, and fails again without changing more. -/
theorem save_again {e : SaveError} (h : save path s t = (.error e, u)) :
    save path s u = (.error e, u) := by
  have hsaving := saving path s t
  rw [h] at hsaving
  cases hsaving with
  | unwritten hw => exact h
  | unrenamed hw hpath =>
    have hput := Tree.SameBut.write hw
    have hagain := saving path s u
    generalize save path s u = r at hagain
    cases hagain with
    | unwritten hw' =>
      rw [Tree.write?_again hw] at hw'
      cases hw'
    | unrenamed hw' =>
      rw [Tree.write?_again hw] at hw'
      cases hw'
      rfl
    | replaced hw' hk hfile =>
      rw [hput.locate] at hk
      rw [hput.isDirectory, hpath _ hk] at hfile
      cases hfile

theorem saveAgain_eq_save (n : Nat) : saveAgain path s n t = save path s t := by
  induction n generalizing t with
  | zero => rfl
  | succ n ih =>
    rw [saveAgain]
    split
    · rename_i u hsave
      exact hsave.symm
    · rename_i e u hsave
      rw [ih, save_again hsave, hsave]

/-- Nothing is gained by trying again. -/
theorem saveWithRetry_eq_save (path : String) (s : Settings) (t : Tree) :
    saveWithRetry path s t = save path s t :=
  saveAgain_eq_save 2

theorem perform_saveEffects (path : String) (s : Settings) (t : Tree) :
    (FileEffect.perform (saveEffects path s) t).1 = (save path s t).2 := by
  unfold save
  split <;> simp_all

theorem sameBut_save (path : String) (s : Settings) (t : Tree) :
    Tree.SameBut [path, temporaryPath path] t (save path s t).2 := by
  have hperform := FileEffect.sameBut_perform (saveEffects path s) t
  rw [← perform_saveEffects]
  exact hperform.mono (by simp [saveEffects, FileEffect.paths])

/-- After a save that succeeds the temporary file is gone. -/
theorem find?_temporaryPath_saved (h : save path s t = (.ok (), u)) :
    u.find? (temporaryPath path) = none := by
  have hsaving := saving path s t
  rw [h] at hsaving
  cases hsaving with
  | replaced hw hk hfile hr =>
    refine Tree.find?_renamed hr ?_
    rw [(Tree.SameBut.remove _ path).locate, (Tree.SameBut.remove _ path).locate,
      (Tree.SameBut.write hw).locate, (Tree.SameBut.write hw).locate]
    exact (locate_temporaryPath_ne hk hfile).symm

/-- A save that fails leaves all but the temporary file as it was. -/
theorem sameBut_unsaved {e : SaveError} (h : save path s t = (.error e, u)) :
    Tree.SameBut [temporaryPath path] t u ∧ u.find? path = t.find? path := by
  have hsaving := saving path s t
  rw [h] at hsaving
  cases hsaving with
  | unwritten hw => exact ⟨.refl _ _, rfl⟩
  | unrenamed hw hpath =>
    have hput := Tree.SameBut.write hw
    refine ⟨hput, ?_⟩
    unfold Tree.find?
    rw [hput.locate]
    cases hk : t.locate path with
    | none => rfl
    | some k =>
      have hold := hpath k hk
      have hnew := hput.isDirectory k
      rw [hold] at hnew
      simp only [Tree.isDirectory, decide_eq_true_eq] at hold hnew
      exact hnew.trans hold.symm

theorem loadFrom_congr (h : u.find? path = t.find? path) : loadFrom u path = loadFrom t path := by
  rw [loadFrom, loadFrom, h]

/-- A settings file that can be loaded is no directory. -/
theorem locate_of_loadFrom (h : loadFrom t path = .ok s) :
    ∃ k, t.locate path = some k ∧ t.isDirectory k = false := by
  unfold loadFrom at h
  split at h
  · cases h
  · cases h
  · rename_i c hc
    rw [Tree.find?, Option.bind_eq_some_iff] at hc
    obtain ⟨k, hk, hc⟩ := hc
    exact ⟨k, hk, by simp [Tree.isDirectory, hc]⟩

/-- A save succeeds wherever the settings file and the temporary file are no directories and can
have a place. -/
theorem save_isOk (hw : t.write? (temporaryPath path) s.toText = some v)
    (hk : t.locate path = some k) (hfile : t.isDirectory k = false) :
    ∃ u, save path s t = (.ok (), u) := by
  have hsaving := saving path s t
  generalize save path s t = r at hsaving
  cases hsaving with
  | unwritten hw' =>
    rw [hw] at hw'
    cases hw'
  | unrenamed _ hpath =>
    rw [hpath k hk] at hfile
    cases hfile
  | replaced => exact ⟨_, rfl⟩

/-- Settings that are saved where a path leads to no directory load back. -/
theorem loadsBack_of_located (hs : s.placement.Fits) (hk : t.locate path = some k)
    (hfile : t.isDirectory k = false)
    (hbeside : ∀ l, t.locate (temporaryPath path) = some l → t.isDirectory l = false) :
    temporaryPath path ≠ path ∧ s.toText.utf8ByteSize ≤ largestFile ∧
      ∃ u, save path s t = (.ok (), u) ∧ loadFrom u path = .ok s ∧
        FileStore.openAt path u = ⟨path, s, false⟩ ∧ u.find? (temporaryPath path) = none ∧
        Tree.SameBut [path, temporaryPath path] t u := by
  have hne := locate_temporaryPath_ne hk hfile
  obtain ⟨d, name, -, hl⟩ := locate_temporaryPath hk hfile
  have hw : t.write? (temporaryPath path) s.toText = some (t.put _ (.file (.text s.toText))) :=
    Tree.write?_eq_some.mpr ⟨_, hl, hbeside _ hl, rfl⟩
  obtain ⟨u, hu⟩ := save_isOk hw hk hfile
  have hload := loadFrom_saved hs (find?_save hu)
  have hsame := sameBut_save path s t
  rw [hu] at hsame
  refine ⟨fun heq => hne (by rw [heq]), ?_, u, hu, hload, FileStore.openAt_of_loaded hload,
    find?_temporaryPath_saved hu, hsame⟩
  exact Nat.le_trans (utf8ByteSize_toText hs) (by decide)

/-- Settings that are saved load back, whatever the numbers in them and whatever the name of their
file, and nothing is left beside it. The path ends in that name, in a directory that is there;
neither the file nor the temporary file need be there before, but no directory may have its name. -/
theorem loadsBack_save {name : String} (hs : s.placement.Fits) (hname : Path.name? path = some name)
    (hslash : path.toList.getLast? ≠ some '/') (hdot : (Path.steps path).getLast? ≠ some ".")
    (hparent : t.find? (Path.parent path) = some .directory)
    (hfile : t.find? path ≠ some .directory)
    (hbeside : t.find? (temporaryPath path) ≠ some .directory) :
    temporaryPath path ≠ path ∧ s.toText.utf8ByteSize ≤ largestFile ∧
      ∃ u, save path s t = (.ok (), u) ∧ loadFrom u path = .ok s ∧
        FileStore.openAt path u = ⟨path, s, false⟩ ∧ u.find? (temporaryPath path) = none ∧
        Tree.SameBut [path, temporaryPath path] t u := by
  have hplain {p : String} {l : Location} (hp : t.find? p ≠ some .directory)
      (hl : t.locate p = some l) : t.isDirectory l = false := by
    rw [Tree.find?, hl, Option.bind_some] at hp
    simpa [Tree.isDirectory] using hp
  obtain ⟨d, hk⟩ := Tree.locate_of_parent hname hslash hdot hparent
  exact loadsBack_of_located hs hk (hplain hfile hk) fun l hl => hplain hbeside hl

/-- A path that goes on with a dot after its name leads to no file, so nothing takes its place. -/
theorem loadsBack_save_dotted :
    ¬ ∀ (path name : String) (s : Settings) (t : Tree), s.placement.Fits →
      Path.name? path = some name → path.toList.getLast? ≠ some '/' →
      t.find? (Path.parent path) = some .directory → t.find? path ≠ some .directory →
      t.find? (temporaryPath path) ≠ some .directory → ∃ u, save path s t = (.ok (), u) := by
  intro h
  obtain ⟨u, hu⟩ := h "conf/settings.json/." "settings.json" .initial ⟨[(["conf"], .directory)]⟩
    Placement.fits_empty (by decide +kernel) (by decide +kernel) (by decide +kernel)
    (by decide +kernel) (by decide +kernel)
  have hfails : save "conf/settings.json/." .initial ⟨[(["conf"], .directory)]⟩ =
      (.error .notRenamed, ⟨[(["conf", "settings.json.tmp"],
        .file (.text Settings.initial.toText)), (["conf"], .directory)]⟩) := by
    decide +kernel
  rw [hfails] at hu
  cases hu

/-- Settings with the least and the greatest numbers are saved in a hidden file, over what was left
beside it. -/
theorem loadsBack_save_hidden :
    let path := "conf/.keeper"
    let s : Settings := ⟨⟨-2147483648, 2147483647, 0, -1, 2147483647, true, 4294967295⟩,
      .windowOnly, true⟩
    let t : Tree := ⟨[(["conf"], .directory),
      (["conf", ".keeper.json.tmp"], .file (.bytes [137, 80]))]⟩
    temporaryPath path ≠ path ∧ s.toText.utf8ByteSize ≤ largestFile ∧
      ∃ u, save path s t = (.ok (), u) ∧ loadFrom u path = .ok s ∧
        FileStore.openAt path u = ⟨path, s, false⟩ ∧ u.find? (temporaryPath path) = none ∧
        Tree.SameBut [path, temporaryPath path] t u := by
  intro path s t
  have hs : s.placement.Fits := by constructor <;> decide
  have hname : Path.name? path = some ".keeper" := by decide +kernel
  exact loadsBack_save hs hname (by decide +kernel) (by decide +kernel) (by decide +kernel)
    (by decide +kernel) (by decide +kernel)

end Settings

end WindowKeeper
