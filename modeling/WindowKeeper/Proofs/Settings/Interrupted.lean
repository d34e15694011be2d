import WindowKeeper.Proofs.Settings.Replaced

namespace WindowKeeper.Settings

variable {path : String} {s : Settings} {t v : Tree}

/-- The files when the first `n` effects of a save have happened and the others never will. -/
def interrupted (path : String) (s : Settings) (n : Nat) (t : Tree) : Tree :=
  (FileEffect.perform ((saveEffects path s).take n) t).1

theorem interrupted_of_unwritten (hw : t.write? (temporaryPath path) s.toText = none) (n : Nat) :
    interrupted path s n t = t := by
  cases n with
  | zero => rfl
  | succ n => simp [interrupted, saveEffects, FileEffect.perform, FileEffect.apply?, hw]

theorem interrupted_one (hw : t.write? (temporaryPath path) s.toText = some v) :
    interrupted path s 1 t = v := by
  simp [interrupted, saveEffects, FileEffect.perform, FileEffect.apply?, hw]

theorem interrupted_two (hw : t.write? (temporaryPath path) s.toText = some v) :
    interrupted path s 2 t = v.remove path := by
  simp [interrupted, saveEffects, FileEffect.perform, FileEffect.apply?, hw]

theorem interrupted_of_le {n : Nat} (hn : 3 ≤ n) : interrupted path s n t = (save path s t).2 := by
  rw [interrupted, List.take_of_length_le hn, save]
  split <;> simp_all

/-- A store opened after a save was cut off has the old settings or the new ones, unless the save
was cut off when the old file was removed and the new one not yet in its place. Then it starts
anew, while the new settings are whole in the temporary file. -/
theorem openAt_interrupted {old new : Settings} (hold : loadFrom t path = .ok old)
    (hnew : new.placement.Fits) (n : Nat) :
    (n ≠ 2 ∨ t.write? (temporaryPath path) new.toText = none →
      FileStore.openAt path (interrupted path new n t) = ⟨path, old, false⟩ ∨
      FileStore.openAt path (interrupted path new n t) = ⟨path, new, false⟩) ∧
    (n = 2 → t.write? (temporaryPath path) new.toText ≠ none →
      FileStore.openAt path (interrupted path new n t) = ⟨path, .initial, false⟩ ∧
      loadFrom (interrupted path new n t) (temporaryPath path) = .ok new) := by
  obtain ⟨k, hk, hfile⟩ := locate_of_loadFrom hold
  cases hw : t.write? (temporaryPath path) new.toText with
  | none =>
    rw [interrupted_of_unwritten hw]
    exact ⟨fun _ => .inl (FileStore.openAt_of_loaded hold), fun _ h => absurd rfl h⟩
  | some v =>
    have hput := Tree.SameBut.write hw
    constructor
    · intro hn
      have hn : n ≠ 2 := hn.resolve_right (by simp)
      rcases Nat.lt_or_ge n 3 with hlt | hge
      · obtain rfl | rfl : n = 0 ∨ n = 1 := by omega
        · exact .inl (FileStore.openAt_of_loaded hold)
        · have hfound : v.find? path = t.find? path := by
            refine hput.find? fun p hp => ?_
            rw [List.mem_singleton.mp hp]
            exact (locate_temporaryPath_ne hk hfile).symm
          rw [interrupted_one hw]
          exact .inl (FileStore.openAt_of_loaded ((loadFrom_congr hfound).trans hold))
      · obtain ⟨u, hu⟩ := save_isOk hw hk hfile
        rw [interrupted_of_le hge, hu]
        exact .inr (FileStore.openAt_of_loaded (loadFrom_saved hnew (find?_save hu)))
    · rintro rfl -
      rw [interrupted_two hw]
      constructor
      · have hgone : (v.remove path).find? path = none :=
          Tree.find?_removed ((hput.locate path).trans hk) ((hput.isDirectory k).trans hfile)
        have habsent : loadFrom (v.remove path) path = .error .absent := by
          rw [loadFrom, hgone]
        rw [FileStore.openAt, habsent]
      · exact loadFrom_saved hnew (find?_temporaryPath_removed hw hk hfile)

/-- A save is cut off after its first effect, and after its second. -/
theorem openAt_interrupted_twice :
    let old : Settings := ⟨⟨40, 60, 800, 600, 100, false, 679109651⟩, .trayOnly, true⟩
    let new : Settings := ⟨⟨-40, 60, 801, 603, 125, true, 679109651⟩, .trayOnly, true⟩
    let t : Tree := ⟨[(["settings.json"], .file (.text old.toText))]⟩
    (FileStore.openAt "settings.json" (interrupted "settings.json" new 1 t) =
        ⟨"settings.json", old, false⟩ ∨
      FileStore.openAt "settings.json" (interrupted "settings.json" new 1 t) =
        ⟨"settings.json", new, false⟩) ∧
    FileStore.openAt "settings.json" (interrupted "settings.json" new 2 t) =
      ⟨"settings.json", .initial, false⟩ ∧
    loadFrom (interrupted "settings.json" new 2 t) "settings.json.tmp" = .ok new := by
  intro old new t
  have hk : t.locate "settings.json" = some ["settings.json"] := by decide +kernel
  have hold : loadFrom t "settings.json" = .ok old := by
    refine loadFrom_saved (by constructor <;> decide) ?_
    rw [Tree.find?, hk]
    rfl
  have hnew : new.placement.Fits := by constructor <;> decide
  obtain ⟨hkept, -⟩ := openAt_interrupted hold hnew 1
  obtain ⟨-, hlost⟩ := openAt_interrupted hold hnew 2
  exact ⟨hkept (.inl (by decide)), hlost rfl (by decide +kernel)⟩

/-- The old settings are lost, and the new ones not found, when a save is cut off after its second
effect. -/
theorem openAt_interrupted_lost :
    ¬ ∀ (path : String) (old new : Settings) (t : Tree) (n : Nat), loadFrom t path = .ok old →
      new.placement.Fits → FileStore.openAt path (interrupted path new n t) = ⟨path, old, false⟩ ∨
        FileStore.openAt path (interrupted path new n t) = ⟨path, new, false⟩ := by
  intro h
  let old : Settings := ⟨⟨40, 60, 800, 600, 100, false, 679109651⟩, .trayOnly, true⟩
  let new : Settings := ⟨⟨-40, 60, 801, 603, 125, true, 679109651⟩, .trayOnly, true⟩
  let t : Tree := ⟨[(["settings.json"], .file (.text old.toText))]⟩
  have hk : t.locate "settings.json" = some ["settings.json"] := by decide +kernel
  have hold : loadFrom t "settings.json" = .ok old := by
    refine loadFrom_saved (by constructor <;> decide) ?_
    rw [Tree.find?, hk]
    rfl
  have hlost : FileStore.openAt "settings.json" (interrupted "settings.json" new 2 t) =
      ⟨"settings.json", .initial, false⟩ := by
    decide +kernel
  have hkept := h _ old new t 2 hold (by constructor <;> decide)
  rw [hlost] at hkept
  revert hkept
  decide +kernel

end WindowKeeper.Settings
