import WindowKeeper.Proofs.Session.Tandem
import WindowKeeper.Proofs.Settings.Journal

namespace WindowKeeper

/-- A file store that keeps account of what it did to the files, and of how often it failed to write
its own. -/
@[ext]
structure JournaledStore where
  file : FileStore
  journal : List FileEffect
  failures : Nat
  deriving DecidableEq, Repr

theorem FileStore.sameBut_flush (f : FileStore) (t : Tree) :
    Tree.SameBut [f.path, Settings.temporaryPath f.path] t (f.flush t).2.2 := by
  cases hdirty : f.dirty with
  | false =>
    rw [flush_clean hdirty]
    exact .refl _ t
  | true =>
    have hsame := Settings.sameBut_save f.path f.settings t
    rw [flush_dirty hdirty]
    rcases hsave : Settings.save f.path f.settings t with ⟨r, u⟩
    rw [hsave] at hsame
    cases r with
    | ok _ => exact hsame
    | error _ => exact hsame

namespace JournaledStore

/-- A store over a file, without unsaved settings. -/
def ofSettings (path : String) (s : Settings) : JournaledStore := ⟨⟨path, s, false⟩, [], 0⟩

/-- How often the file has been replaced. -/
def writes (c : JournaledStore) : Nat := c.journal.countP (FileEffect.replaces c.file.path)

def flush (c : JournaledStore) (t : Tree) :
    Except Settings.SaveError Unit × JournaledStore × Tree :=
  match c.file.flush t with
  | (.ok (), f, u) => (.ok (), ⟨f, c.journal ++ c.file.journal t, c.failures⟩, u)
  | (.error e, f, u) => (.error e, ⟨f, c.journal ++ c.file.journal t, c.failures + 1⟩, u)

instance : Store JournaledStore where
  settings c := c.file.settings
  setPlacement p c := { c with file := Store.setPlacement p c.file }
  setWorkMode m c := { c with file := Store.setWorkMode m c.file }
  setNativeFrame b c := { c with file := Store.setNativeFrame b c.file }
  requestSave c := { c with file := Store.requestSave c.file }
  isDirty c := c.file.dirty
  flush := flush

/-- Keeping account changes nothing of what a file store does. -/
theorem flush_file (c : JournaledStore) (t : Tree) :
    c.file.flush t = ((c.flush t).1, (c.flush t).2.1.file, (c.flush t).2.2) := by
  unfold flush
  rcases c.file.flush t with ⟨r, f, u⟩
  cases r <;> rfl

theorem file_flush (c : JournaledStore) (t : Tree) :
    (c.flush t).2.1.file = (c.file.flush t).2.1 :=
  congrArg (fun p => p.2.1) (c.flush_file t).symm

theorem files_flush (c : JournaledStore) (t : Tree) : (c.flush t).2.2 = (c.file.flush t).2.2 :=
  congrArg (fun p => p.2.2) (c.flush_file t).symm

theorem journal_flush (c : JournaledStore) (t : Tree) :
    (c.flush t).2.1.journal = c.journal ++ c.file.journal t := by
  unfold flush
  rcases c.file.flush t with ⟨r, f, u⟩
  cases r <;> rfl

/-- The files are what the journal has made of those that were there first. -/
theorem perform_flush {c : JournaledStore} {files t : Tree}
    (h : FileEffect.perform c.journal files = (t, none)) :
    FileEffect.perform (c.flush t).2.1.journal files = ((c.flush t).2.2, none) := by
  rw [journal_flush, FileEffect.perform_append h, FileStore.perform_journal, files_flush]

/-- A store with a journal beside the file store that it is. -/
def plain (config : Config) : StoreLink config JournaledStore FileStore where
  Linked c t f u := f = c.file ∧ u = t
  settings := by
    rintro c t f u ⟨rfl, rfl⟩
    rfl
  setPlacement := by
    rintro c t f u p ⟨rfl, rfl⟩
    exact ⟨rfl, rfl⟩
  setWorkMode := by
    rintro c t f u m ⟨rfl, rfl⟩
    exact ⟨rfl, rfl⟩
  setNativeFrame := by
    rintro c t f u b ⟨rfl, rfl⟩
    exact ⟨rfl, rfl⟩
  requestSave := by
    rintro c t f u ⟨rfl, rfl⟩
    exact ⟨rfl, rfl⟩
  sameIcons := by
    rintro c t f u ⟨rfl, rfl⟩
    exact fun _ _ => rfl
  flush := by
    rintro c t f u ⟨rfl, rfl⟩
    exact ⟨(c.file_flush u).symm, (c.files_flush u).symm⟩

/-- What settings in memory and those that are written to a file have in common, while nothing else
changes the files. -/
structure Mirrors (files : Tree) (path : String) (m : MemoryStore) (c : JournaledStore) (u : Tree) :
    Prop where
  settings : c.file.settings = m.settings
  samePath : c.file.path = path
  sameBut : Tree.SameBut [path, Settings.temporaryPath path] files u
  journal : FileEffect.perform c.journal files = (u, none)
  dirty : c.failures = 0 → c.file.dirty = m.dirty
  writes : c.failures = 0 → c.writes = m.flushes

variable {config : Config} {files : Tree} {path : String}

theorem writes_flush {c : JournaledStore} {f : FileStore} {t u : Tree}
    (h : c.file.flush t = (.ok (), f, u)) :
    (c.flush t).2.1.writes = c.writes + if c.file.dirty then 1 else 0 := by
  unfold writes
  rw [file_flush, FileStore.path_flush, journal_flush, List.countP_append,
    FileStore.countP_journal h]

/-- A flush that does not fail leaves nothing to write, and what was there has been written. -/
theorem flush_unfailing {c : JournaledStore} {u : Tree} (h : (c.flush u).2.1.failures = 0) :
    c.failures = 0 ∧ (c.flush u).2.1.file.dirty = false ∧
      (c.flush u).2.1.writes = c.writes + if c.file.dirty then 1 else 0 := by
  rcases hflush : c.file.flush u with ⟨r, f, v⟩
  cases r with
  | error e =>
    rw [flush, hflush] at h
    cases h
  | ok _ =>
    refine ⟨?_, ?_, writes_flush hflush⟩
    · rw [flush, hflush] at h
      exact h
    · rw [file_flush, hflush]
      cases hdirty : c.file.dirty with
      | true =>
        obtain ⟨rfl, -⟩ := FileStore.flush_eq_ok hdirty hflush
        rfl
      | false =>
        rw [FileStore.flush_clean hdirty] at hflush
        cases hflush
        exact hdirty

/-- A flush that fails leaves nothing to compare; the others are counted by both. -/
theorem Mirrors.flush {m : MemoryStore} {c : JournaledStore} {u : Tree}
    (h : Mirrors files path m c u) (t : Tree) :
    Mirrors files path (Store.flush m t).2.1 (c.flush u).2.1 (c.flush u).2.2 := by
  have hmemory : (Store.flush m t).2.1 =
      if m.dirty then { m with dirty := false, flushes := m.flushes + 1 } else m := rfl
  constructor
  · have hsettings : (Store.flush m t).2.1.settings = m.settings :=
      LawfulStore.settings_flush m t
    rw [file_flush, FileStore.settings_flush, hsettings, h.settings]
  · rw [file_flush, FileStore.path_flush, h.samePath]
  · have hsame := c.file.sameBut_flush u
    rw [h.samePath] at hsame
    rw [files_flush]
    exact h.sameBut.trans hsame
  · exact perform_flush h.journal
  · intro hfailures
    obtain ⟨-, hdirty, -⟩ := flush_unfailing hfailures
    rw [hdirty, hmemory]
    cases hm : m.dirty with
    | true => rfl
    | false => exact hm.symm
  · intro hfailures
    obtain ⟨hbefore, -, hwrites⟩ := flush_unfailing hfailures
    rw [hwrites, hmemory, h.dirty hbefore, h.writes hbefore]
    split
    · rfl
    · rfl

/-- Settings in memory beside a file that is no picture for the icon. -/
def mirrored (hfree : files.PictureFree config path) :
    StoreLink config MemoryStore JournaledStore where
  Linked m t c u := t = files ∧ Mirrors files path m c u
  settings h := h.2.settings
  setPlacement p h := by
    obtain ⟨ht, h⟩ := h
    exact ⟨ht, { h with settings := congrArg (fun s => { s with placement := p }) h.settings }⟩
  setWorkMode w h := by
    obtain ⟨ht, h⟩ := h
    exact ⟨ht, { h with settings := congrArg (fun s => { s with workMode := w }) h.settings }⟩
  setNativeFrame b h := by
    obtain ⟨ht, h⟩ := h
    exact ⟨ht, { h with settings := congrArg (fun s => { s with nativeFrame := b }) h.settings }⟩
  requestSave h := by
    obtain ⟨ht, h⟩ := h
    exact ⟨ht, { h with dirty := fun _ => rfl }⟩
  sameIcons h := by
    obtain ⟨rfl, h⟩ := h
    exact Tree.sameIcons_of_sameBut hfree h.sameBut
  flush h := ⟨h.1, h.2.flush _⟩

end JournaledStore

namespace Session

/-- The sessions are equal but for their stores and files. The stores have the same settings, and
the files are what the second store has made of those that were there first. Unless a write has
failed, as many flushes were counted by the first store as there were replacements of the file of
the second, and neither or both have unsaved settings. -/
structure Lockstep (files : Tree) (path : String) (s : Session MemoryStore)
    (t : Session JournaledStore) : Prop where
  rest : t = s.onStore t.store t.files
  settings : t.store.file.settings = s.store.settings
  samePath : t.store.file.path = path
  journal : FileEffect.perform t.store.journal files = (t.files, none)
  dirty : t.store.failures = 0 → t.store.file.dirty = s.store.dirty
  writes : t.store.failures = 0 → t.store.writes = s.store.flushes

theorem lockstep_of_beside {config : Config} {files : Tree} {path : String}
    {hfree : files.PictureFree config path} {s : Session MemoryStore} {t : Session JournaledStore}
    (h : (JournaledStore.mirrored hfree).Beside s t) : Lockstep files path s t := by
  cases h with
  | intro hconfig hlinked =>
    obtain ⟨-, h⟩ := hlinked
    exact ⟨rfl, h.settings, h.samePath, h.journal, h.dirty, h.writes⟩

/-- A session over settings in memory and one over a settings file stay in lockstep, unless the file
is one of the pictures for the icon. The second store keeps a journal, without which it is the
same. -/
theorem actAll_lockstep (window : Window) (settings : Settings) {files : Tree} {config : Config}
    {path : String} (hfree : files.PictureFree config path) (as : List Action) :
    Outcome.Rel (Lockstep files path) (Lockstep files path)
      ((start window (MemoryStore.ofSettings settings) files config).actAll as)
      ((start window (JournaledStore.ofSettings path settings) files config).actAll as) ∧
    Outcome.Rel (fun t u => u = t.onStore t.store.file t.files)
      (fun t u => u = t.onStore t.store.file t.files)
      ((start window (JournaledStore.ofSettings path settings) files config).actAll as)
      ((start window (FileStore.mk path settings false) files config).actAll as) := by
  constructor
  · have hstart : (JournaledStore.mirrored hfree).Beside
        (start window (MemoryStore.ofSettings settings) files config)
        (start window (JournaledStore.ofSettings path settings) files config) :=
      .intro (s := start window (MemoryStore.ofSettings settings) files config) rfl
        ⟨rfl, rfl, rfl, .refl _ _, rfl, fun _ => rfl, fun _ => rfl⟩
    exact (hstart.actAll as).mono (fun _ _ => lockstep_of_beside) fun _ _ => lockstep_of_beside
  · have hstart : (JournaledStore.plain config).Beside
        (start window (JournaledStore.ofSettings path settings) files config)
        (start window (FileStore.mk path settings false) files config) :=
      .intro (s := start window (JournaledStore.ofSettings path settings) files config) rfl
        ⟨rfl, rfl⟩
    have hplain (t : Session JournaledStore) (u : Session FileStore)
        (h : (JournaledStore.plain config).Beside t u) : u = t.onStore t.store.file t.files := by
      cases h with
      | intro hconfig hlinked =>
        obtain ⟨rfl, rfl⟩ := hlinked
        rfl
    exact (hstart.actAll as).mono hplain hplain

/-- A window is moved and maximized, which is written one time each. -/
theorem actAll_lockstep_moved :
    let m : Monitor := ⟨"DP-1", ⟨0, 0, 1920, 1080⟩, ⟨0, 0, 1920, 1080⟩, true⟩
    let path := Config.initial.settingsPath
    let as : List Action := [.attachTray, .init, .activate, .process, .handle .placed, .move 40 60,
      .process, .wait 3000, .setState .maximized, .process, .wait 5000, .shutdown]
    let w : Window := .onMonitors [m] .none
    ∃ s t u,
      (start w (MemoryStore.ofSettings .initial) .empty .initial).actAll as = .ok s ∧
      (start w (JournaledStore.ofSettings path .initial) .empty .initial).actAll as = .ok t ∧
      (start w (FileStore.mk path .initial false) .empty .initial).actAll as = .ok u ∧
      t.store.failures = 0 ∧ t.store.writes = 2 ∧ Lockstep .empty path s t ∧
      u = t.onStore t.store.file t.files := by
  intro m path as w
  obtain ⟨t, ht, hfailures, hwrites⟩ :
      ∃ t, (start w (JournaledStore.ofSettings path .initial) .empty .initial).actAll as = .ok t ∧
        t.store.failures = 0 ∧ t.store.writes = 2 := by
    decide +kernel
  obtain ⟨hmemory, hfile⟩ :=
    actAll_lockstep w .initial (Tree.pictureFree_settingsPath .initial .empty) as
  rw [ht] at hmemory hfile
  generalize (start w (MemoryStore.ofSettings .initial) .empty .initial).actAll as = x
    at hmemory ⊢
  generalize (start w (FileStore.mk path .initial false) .empty .initial).actAll as = y at hfile ⊢
  cases hmemory with
  | ok hlockstep =>
    cases hfile with
    | ok hplain => exact ⟨_, t, _, rfl, ht, rfl, hfailures, hwrites, hlockstep, hplain⟩

/-- Settings are written over the blue logo, which only the session in memory shows after that. -/
theorem actAll_lockstep_pictured :
    ¬ ∀ (window : Window) (settings : Settings) (files : Tree) (config : Config) (path : String)
      (as : List Action) (s : Session MemoryStore) (t : Session JournaledStore),
      (start window (MemoryStore.ofSettings settings) files config).actAll as = .ok s →
      (start window (JournaledStore.ofSettings path settings) files config).actAll as = .ok t →
      t.store.failures = 0 → Lockstep files path s t := by
  intro h
  let path := "assets/logo_256_blue.png"
  let files := Tree.empty.addAt path (.file (.picture ⟨1, 1, #[⟨0, 0, 255, 255⟩]⟩))
  let as : List Action := [.handle (.nativeFrameChanged true), .shutdown, .handle (.iconChanged 1)]
  let w : Window := .onMonitors [] .none
  obtain ⟨s, hs, t, ht, hfailures, hicon⟩ :
      ∃ s, (start w (MemoryStore.ofSettings .initial) files .initial).actAll as = .ok s ∧
        ∃ t, (start w (JournaledStore.ofSettings path .initial) files .initial).actAll as = .ok t ∧
          t.store.failures = 0 ∧ t.window.icon ≠ s.window.icon := by
    decide +kernel
  exact hicon (congrArg (fun r => r.window.icon) (h w _ files _ path as s t hs ht hfailures).rest)

end Session

end WindowKeeper
