import WindowKeeper.Files.Tree

namespace WindowKeeper

namespace Tree

theorem lookup_filter_ne (es : List (Location × Node)) (k l : Location) :
    (es.filter fun e => e.1 ≠ k).lookup l = if l = k then none else es.lookup l := by
  induction es with
  | nil => simp
  | cons e es ih =>
    obtain ⟨m, n⟩ := e
    by_cases hm : m = k
    · rw [List.filter_cons_of_neg (by simpa using hm), ih]
      split
      · rfl
      · rename_i hl
        have hne : (l == m) = false := by simpa [hm] using hl
        simp [List.lookup_cons, hne]
    · rw [List.filter_cons_of_pos (by simpa using hm), List.lookup_cons, List.lookup_cons]
      by_cases hl : l = m
      · simp [hl, hm]
      · have hne : (l == m) = false := by simpa using hl
        simp only [hne]
        exact ih

theorem at?_put {t : Tree} {k : Location} (hk : isStanding k = false) (l : Location) (n : Node) :
    (t.put k n).at? l = if l = k then some n else t.at? l := by
  unfold at? put
  rw [List.lookup_cons, lookup_filter_ne]
  by_cases hl : l = k
  · simp [hl, hk]
  · have hne : (l == k) = false := by simpa using hl
    simp [hl, hne]

theorem at?_erase {t : Tree} {k : Location} (hk : isStanding k = false) (l : Location) :
    (t.erase k).at? l = if l = k then none else t.at? l := by
  unfold at? erase
  rw [lookup_filter_ne]
  by_cases hl : l = k
  · simp [hl, hk]
  · simp [hl]

theorem isStanding_of_file {t : Tree} {k : Location} (h : t.isDirectory k = false) :
    isStanding k = false := by
  by_cases hk : isStanding k
  · simp [isDirectory, at?, hk] at h
  · simpa using hk

theorem isDirectory_put {t : Tree} {k : Location} {c : FileContent} (h : t.isDirectory k = false)
    (l : Location) : (t.put k (.file c)).isDirectory l = t.isDirectory l := by
  unfold isDirectory at *
  rw [at?_put (isStanding_of_file h)]
  by_cases hl : l = k
  · simpa [hl] using h
  · rw [if_neg hl]

theorem isDirectory_erase {t : Tree} {k : Location} (h : t.isDirectory k = false) (l : Location) :
    (t.erase k).isDirectory l = t.isDirectory l := by
  unfold isDirectory at *
  rw [at?_erase (isStanding_of_file h)]
  by_cases hl : l = k
  · simpa [hl] using h
  · rw [if_neg hl]

theorem walk_congr {t u : Tree} (h : ∀ k, u.isDirectory k = t.isDirectory k) (ss : List String)
    (k : Location) : u.walk ss k = t.walk ss k := by
  induction ss generalizing k with
  | nil => rfl
  | cons s ss ih => rw [walk, walk, h, ih]

theorem locate_congr {t u : Tree} (h : ∀ k, u.isDirectory k = t.isDirectory k) (path : String) :
    u.locate path = t.locate path := by
  unfold locate
  split
  · rfl
  · split
    · exact walk_congr h _ _
    · exact walk_congr h _ _

/-- A text is written wherever a path leads to no directory. -/
theorem write?_eq_some {t u : Tree} {path text : String} :
    t.write? path text = some u ↔ ∃ k, t.locate path = some k ∧ t.isDirectory k = false ∧
      u = t.put k (.file (.text text)) := by
  simp only [write?, Option.bind_eq_bind, Option.bind_eq_some_iff]
  refine exists_congr fun k => and_congr_right fun _ => ?_
  cases t.isDirectory k <;> simp [eq_comm]

/-- A file is moved wherever a path leads to no directory. -/
theorem rename?_eq_some {t u : Tree} {source target : String} :
    t.rename? source target = some u ↔ ∃ k l c, t.locate source = some k ∧
      t.locate target = some l ∧ t.at? k = some (.file c) ∧ t.isDirectory l = false ∧
      u = (t.erase k).put l (.file c) := by
  simp only [rename?, Option.bind_eq_bind, Option.bind_eq_some_iff]
  constructor
  · rintro ⟨k, hk, l, hl, h⟩
    split at h
    · rename_i c hc
      split at h
      · cases h
      · rename_i hdir
        cases h
        exact ⟨k, l, c, hk, hl, hc, by simpa using hdir, rfl⟩
    · cases h
  · rintro ⟨k, l, c, hk, hl, hc, hfile, rfl⟩
    refine ⟨k, hk, l, hl, ?_⟩
    rw [hc]
    simp only [hfile, Bool.false_eq_true, if_false]

theorem find?_write {t u : Tree} {path text : String} (h : t.write? path text = some u) :
    u.find? path = some (.file (.text text)) := by
  obtain ⟨k, hk, hfile, rfl⟩ := write?_eq_some.mp h
  rw [find?, locate_congr (isDirectory_put hfile), hk, Option.bind_some,
    at?_put (isStanding_of_file hfile), if_pos rfl]

/-- What is found after a removal was there before. -/
theorem find?_remove {t : Tree} {path removed : String} {c : FileContent}
    (h : (t.remove removed).find? path = some (.file c)) : t.find? path = some (.file c) := by
  unfold remove at h
  split at h
  · rename_i k hk
    split at h
    · exact h
    · rename_i hdir
      have hfile : t.isDirectory k = false := by simpa using hdir
      rw [find?, locate_congr (isDirectory_erase hfile), Option.bind_eq_some_iff] at h
      obtain ⟨l, hl, h⟩ := h
      rw [at?_erase (isStanding_of_file hfile)] at h
      split at h
      · cases h
      · rw [find?, hl]
        exact h
  · exact h

/-- A renamed file is found under its new path. -/
theorem find?_rename {t u : Tree} {source target : String}
    (h : t.rename? source target = some u) :
    ∃ c, t.find? source = some (.file c) ∧ u.find? target = some (.file c) := by
  obtain ⟨k, l, c, hk, hl, hc, hfile, rfl⟩ := rename?_eq_some.mp h
  have hsource : t.isDirectory k = false := by simp [isDirectory, hc]
  have htarget : (t.erase k).isDirectory l = false := by
    rw [isDirectory_erase hsource]
    exact hfile
  refine ⟨c, by rw [find?, hk]; exact hc, ?_⟩
  rw [find?, locate_congr (isDirectory_put htarget), locate_congr (isDirectory_erase hsource), hl,
    Option.bind_some, at?_put (isStanding_of_file htarget), if_pos rfl]

/-- Removing is idle where a path leads to a directory, or nowhere. -/
theorem remove_eq_self {t : Tree} {path : String}
    (h : ∀ k, t.locate path = some k → t.isDirectory k) : t.remove path = t := by
  unfold remove
  split
  · rename_i k hk
    rw [if_pos (h k hk)]
  · rfl

theorem remove_of_file {t : Tree} {path : String} {k : Location} (hk : t.locate path = some k)
    (hfile : t.isDirectory k = false) : t.remove path = t.erase k := by
  simp only [remove, hk, hfile, Bool.false_eq_true, if_false]

/-- A removed file is not found. -/
theorem find?_removed {t : Tree} {path : String} {k : Location} (hk : t.locate path = some k)
    (hfile : t.isDirectory k = false) : (t.remove path).find? path = none := by
  rw [remove_of_file hk hfile, find?, locate_congr (isDirectory_erase hfile), hk, Option.bind_some,
    at?_erase (isStanding_of_file hfile), if_pos rfl]

/-- A file that was renamed to another place is not found under its old path. -/
theorem find?_renamed {t u : Tree} {source target : String}
    (h : t.rename? source target = some u) (hne : t.locate source ≠ t.locate target) :
    u.find? source = none := by
  obtain ⟨k, l, c, hk, hl, hc, hfile, rfl⟩ := rename?_eq_some.mp h
  have hsource : t.isDirectory k = false := by simp [isDirectory, hc]
  have htarget : (t.erase k).isDirectory l = false := by
    rw [isDirectory_erase hsource]
    exact hfile
  have hkl : k ≠ l := by
    rintro rfl
    exact hne (hk.trans hl.symm)
  rw [find?, locate_congr (isDirectory_put htarget), locate_congr (isDirectory_erase hsource), hk,
    Option.bind_some, at?_put (isStanding_of_file htarget), if_neg hkl,
    at?_erase (isStanding_of_file hsource), if_pos rfl]

theorem put_put (t : Tree) (k : Location) (m n : Node) : (t.put k m).put k n = t.put k n := by
  simp [put]

/-- A text that was written can be written again. -/
theorem write?_again {t u : Tree} {path text : String} (h : t.write? path text = some u) :
    u.write? path text = some u := by
  obtain ⟨k, hk, hfile, rfl⟩ := write?_eq_some.mp h
  rw [write?_eq_some]
  refine ⟨k, ?_, ?_, (put_put t k _ _).symm⟩
  · rw [locate_congr (isDirectory_put hfile), hk]
  · rw [isDirectory_put hfile, hfile]

/-- The second tree differs from the first at most where some paths lead, and every path leads
where it led. -/
structure SameBut (paths : List String) (t u : Tree) : Prop where
  isDirectory : ∀ k, u.isDirectory k = t.isDirectory k
  at? : ∀ k, (∀ path ∈ paths, t.locate path ≠ some k) → u.at? k = t.at? k

namespace SameBut

variable {paths : List String} {t u v : Tree} {path : String}

theorem refl (paths : List String) (t : Tree) : SameBut paths t t := ⟨fun _ => rfl, fun _ _ => rfl⟩

theorem locate (h : SameBut paths t u) (path : String) : u.locate path = t.locate path :=
  locate_congr h.isDirectory path

theorem mono {more : List String} (h : SameBut paths t u) (hsub : paths ⊆ more) :
    SameBut more t u where
  isDirectory := h.isDirectory
  at? k hk := h.at? k fun path hpath => hk path (hsub hpath)

theorem trans (h : SameBut paths t u) (h' : SameBut paths u v) : SameBut paths t v where
  isDirectory k := (h'.isDirectory k).trans (h.isDirectory k)
  at? k hk := by
    have hk' : ∀ path ∈ paths, u.locate path ≠ some k := by
      intro path hpath
      rw [h.locate]
      exact hk path hpath
    rw [h'.at? k hk', h.at? k hk]

/-- Another path finds what it found. -/
theorem find? (h : SameBut paths t u) {other : String}
    (hother : ∀ path ∈ paths, t.locate path ≠ t.locate other) : u.find? other = t.find? other := by
  unfold Tree.find?
  rw [h.locate]
  cases hk : t.locate other with
  | none => rfl
  | some k =>
    rw [hk] at hother
    exact h.at? k hother

theorem put {k : Location} {c : FileContent} (hk : t.locate path = some k)
    (hfile : t.isDirectory k = false) : SameBut [path] t (t.put k (.file c)) where
  isDirectory := isDirectory_put hfile
  at? l hl := by
    have hne : l ≠ k := by
      rintro rfl
      exact hl path List.mem_cons_self hk
    rw [at?_put (isStanding_of_file hfile), if_neg hne]

theorem erase {k : Location} (hk : t.locate path = some k) (hfile : t.isDirectory k = false) :
    SameBut [path] t (t.erase k) where
  isDirectory := isDirectory_erase hfile
  at? l hl := by
    have hne : l ≠ k := by
      rintro rfl
      exact hl path List.mem_cons_self hk
    rw [at?_erase (isStanding_of_file hfile), if_neg hne]

theorem write {text : String} (h : t.write? path text = some u) : SameBut [path] t u := by
  obtain ⟨k, hk, hfile, rfl⟩ := write?_eq_some.mp h
  exact put hk hfile

theorem remove (t : Tree) (path : String) : SameBut [path] t (t.remove path) := by
  unfold Tree.remove
  split
  · rename_i k hk
    split
    · exact refl _ t
    · rename_i hdir
      exact erase hk (by simpa using hdir)
  · exact refl _ t

theorem rename {source target : String} (h : t.rename? source target = some u) :
    SameBut [source, target] t u := by
  obtain ⟨k, l, c, hk, hl, hc, hfile, rfl⟩ := rename?_eq_some.mp h
  have herase : SameBut [source] t (t.erase k) := erase hk (by simp [Tree.isDirectory, hc])
  have hput : SameBut [target] (t.erase k) ((t.erase k).put l (.file c)) :=
    put (by rw [herase.locate, hl]) (by rw [herase.isDirectory, hfile])
  exact (herase.mono (by simp)).trans (hput.mono (by simp))

end SameBut

end Tree

namespace FileEffect

open WindowKeeper.Tree

/-- The paths that an effect is about. -/
def paths : FileEffect → List String
  | .write path _ => [path]
  | .remove path => [path]
  | .rename source target => [source, target]

theorem sameBut_apply {e : FileEffect} {t u : Tree} (h : e.apply? t = some u) :
    SameBut e.paths t u := by
  cases e with
  | write path text => exact .write h
  | remove path =>
    cases h
    exact .remove t path
  | rename source target => exact .rename h

/-- Effects change nothing but what they are about, however far they are performed. -/
theorem sameBut_perform (es : List FileEffect) (t : Tree) :
    SameBut (es.flatMap paths) t (perform es t).1 := by
  induction es generalizing t with
  | nil => exact .refl _ t
  | cons e es ih =>
    rw [perform]
    split
    · rename_i u hu
      exact ((sameBut_apply hu).mono (by simp)).trans ((ih u).mono (by simp))
    · exact .refl _ t

end FileEffect

end WindowKeeper
