import WindowKeeper.Proofs.Settings.Flushed

namespace WindowKeeper

namespace FileEffect

/-- The effects that happen when some are performed: those before the first that fails. -/
def happening : List FileEffect → Tree → List FileEffect
  | [], _ => []
  | e :: es, t =>
    match e.apply? t with
    | some t => e :: happening es t
    | none => []

/-- Whether an effect puts another file in the place of the one of a path. -/
def replaces (path : String) : FileEffect → Bool
  | .rename _ target => target = path
  | _ => false

theorem perform_happening (es : List FileEffect) (t : Tree) :
    perform (happening es t) t = ((perform es t).1, none) := by
  induction es generalizing t with
  | nil => rfl
  | cons e es ih =>
    rw [happening, perform]
    cases he : e.apply? t with
    | none => rfl
    | some u =>
      simp only [perform, he]
      exact ih u

theorem happening_of_performed {es : List FileEffect} {t u : Tree}
    (h : perform es t = (u, none)) : happening es t = es := by
  induction es generalizing t with
  | nil => rfl
  | cons e es ih =>
    rw [perform] at h
    rw [happening]
    cases he : e.apply? t with
    | none =>
      rw [he] at h
      cases h
    | some v =>
      rw [he] at h
      exact congrArg (e :: ·) (ih h)

theorem perform_append {es fs : List FileEffect} {t u : Tree} (h : perform es t = (u, none)) :
    perform (es ++ fs) t = perform fs u := by
  induction es generalizing t with
  | nil =>
    cases h
    rfl
  | cons e es ih =>
    rw [perform] at h
    rw [List.cons_append, perform]
    cases he : e.apply? t with
    | none =>
      rw [he] at h
      cases h
    | some v =>
      rw [he] at h
      exact ih h

end FileEffect

namespace Settings

variable {path : String} {s : Settings} {t u : Tree}

theorem happening_of_saved (h : save path s t = (.ok (), u)) :
    FileEffect.happening (saveEffects path s) t = saveEffects path s := by
  unfold save at h
  split at h
  · rename_i hperform
    exact FileEffect.happening_of_performed hperform
  · cases h

/-- The effects that happen when settings are saved, in up to `n` attempts after the first. -/
def journal (path : String) (s : Settings) : Nat → Tree → List FileEffect
  | 0, t => FileEffect.happening (saveEffects path s) t
  | n + 1, t =>
    match save path s t with
    | (.ok (), _) => FileEffect.happening (saveEffects path s) t
    | (.error _, u) => FileEffect.happening (saveEffects path s) t ++ journal path s n u

/-- What happens when settings are saved accounts for all that becomes of the files. -/
theorem perform_journal (n : Nat) (t : Tree) :
    FileEffect.perform (journal path s n t) t = ((saveAgain path s n t).2, none) := by
  induction n generalizing t with
  | zero =>
    rw [journal, saveAgain, FileEffect.perform_happening, perform_saveEffects]
  | succ n ih =>
    have hfirst := FileEffect.perform_happening (saveEffects path s) t
    rw [perform_saveEffects] at hfirst
    rw [journal, saveAgain]
    cases hsave : save path s t with
    | mk r u =>
      rw [hsave] at hfirst
      cases r with
      | ok _ => exact hfirst
      | error e => exact (FileEffect.perform_append hfirst).trans (ih u)

/-- A save that succeeds does all that it is to do at the first attempt. -/
theorem journal_of_saved {n : Nat} (h : saveAgain path s n t = (.ok (), u)) :
    journal path s n t = saveEffects path s := by
  rw [saveAgain_eq_save] at h
  cases n with
  | zero => exact happening_of_saved h
  | succ n =>
    rw [journal, h]
    exact happening_of_saved h

theorem countP_saveEffects (path : String) (s : Settings) :
    (saveEffects path s).countP (FileEffect.replaces path) = 1 := by
  simp [saveEffects, FileEffect.replaces]

end Settings

namespace FileStore

/-- The effects that happen in a flush. -/
def journal (f : FileStore) (t : Tree) : List FileEffect :=
  if f.dirty then Settings.journal f.path f.settings 2 t else []

theorem perform_journal (f : FileStore) (t : Tree) :
    FileEffect.perform (f.journal t) t = ((f.flush t).2.2, none) := by
  unfold journal flush
  split
  · rw [Settings.perform_journal]
    rcases hsave : Settings.saveWithRetry f.path f.settings t with ⟨r, u⟩
    have hagain : Settings.saveAgain f.path f.settings 2 t = (r, u) := hsave
    rw [hagain]
    cases r with
    | ok _ => rfl
    | error _ => rfl
  · rfl

/-- A flush that succeeds replaces the file once if there is something to write. -/
theorem countP_journal {f g : FileStore} {t u : Tree} (h : f.flush t = (.ok (), g, u)) :
    (f.journal t).countP (FileEffect.replaces f.path) = if f.dirty then 1 else 0 := by
  unfold journal
  split
  · rename_i hdirty
    obtain ⟨-, hsave⟩ := flush_eq_ok hdirty h
    have hagain : Settings.saveAgain f.path f.settings 2 t = (.ok (), u) :=
      (Settings.saveWithRetry_eq_save _ _ _).trans hsave
    rw [Settings.journal_of_saved hagain, Settings.countP_saveEffects]
  · rfl

end FileStore

end WindowKeeper
