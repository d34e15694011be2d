import WindowKeeper.Settings.File

namespace WindowKeeper

/-- A keeper of settings. A change reaches the files at a flush, if a save was requested. -/
class Store (σ : Type) where
  settings : σ → Settings
  setPlacement : Placement → σ → σ
  setWorkMode : WorkMode → σ → σ
  setNativeFrame : Bool → σ → σ
  requestSave : σ → σ
  isDirty : σ → Bool
  flush : σ → Tree → Except Settings.SaveError Unit × σ × Tree

@[ext]
structure FileStore where
  path : String
  settings : Settings
  /-- Whether a save was requested since the last successful flush. -/
  dirty : Bool
  deriving DecidableEq, Repr

namespace FileStore

/-- Starts from the initial settings if the file cannot be loaded. -/
def openAt (path : String) (t : Tree) : FileStore :=
  match Settings.loadFrom t path with
  | .ok s => ⟨path, s, false⟩
  | .error _ => ⟨path, .initial, false⟩

def flush (f : FileStore) (t : Tree) : Except Settings.SaveError Unit × FileStore × Tree :=
  if f.dirty then
    match Settings.saveWithRetry f.path f.settings t with
    | (.ok (), t) => (.ok (), { f with dirty := false }, t)
    | (.error e, t) => (.error e, f, t)
  else (.ok (), f, t)

instance : Store FileStore where
  settings f := f.settings
  setPlacement p f := { f with settings := { f.settings with placement := p } }
  setWorkMode m f := { f with settings := { f.settings with workMode := m } }
  setNativeFrame b f := { f with settings := { f.settings with nativeFrame := b } }
  requestSave f := { f with dirty := true }
  isDirty f := f.dirty
  flush := flush

end FileStore

@[ext]
structure MemoryStore where
  settings : Settings
  placementWrites : Nat
  saveRequests : Nat
  flushes : Nat
  dirty : Bool
  deriving DecidableEq, Repr

namespace MemoryStore

def ofSettings (s : Settings) : MemoryStore := ⟨s, 0, 0, 0, false⟩

instance : Store MemoryStore where
  settings m := m.settings
  setPlacement p m :=
    { m with
      settings := { m.settings with placement := p }
      placementWrites := m.placementWrites + 1 }
  setWorkMode w m := { m with settings := { m.settings with workMode := w } }
  setNativeFrame b m := { m with settings := { m.settings with nativeFrame := b } }
  requestSave m := { m with saveRequests := m.saveRequests + 1, dirty := true }
  isDirty m := m.dirty
  flush m t :=
    (.ok (), if m.dirty then { m with dirty := false, flushes := m.flushes + 1 } else m, t)

end MemoryStore

end WindowKeeper
