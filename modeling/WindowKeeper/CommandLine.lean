import WindowKeeper.CommandLine.Request
import WindowKeeper.Config.File
import WindowKeeper.Form.Script
import WindowKeeper.Script.Replay

namespace WindowKeeper.CommandLine

/-- How a run ends: its exit code, what it prints, and the files it leaves. -/
structure Result where
  exit : Nat
  output : String
  files : Tree
  deriving DecidableEq, Repr

def usageError : Nat := 2

def failure : Nat := 1

def overflowed : Nat := 101

/-- Reads a file of JSON. -/
def readAs {α : Type} (d : Json.Decoder α) (t : Tree) (path : String) : Option α := do
  (Json.decodeText d (← t.readText? path)).toOption

/-- Prints a value. -/
def printed (x : Json) (t : Tree) : Result := ⟨0, x.pretty ++ "\n", t⟩

/-- The rectangle in which the window would open. -/
def place (config : Config) (settings : Settings) (ms : List Monitor) : Except Overflow Rect :=
  (settings.placement.rescale config.scale).restore ms config.openingSize config.leastSize .none

def placementJson (r : Rect) (maximized : Bool) : Json := .object [
  ("geometry", r.toJson), ("maximized", .boolean maximized)]

def windowJson (s : Session FileStore) : Json := .object [
  ("geometry", s.window.geometry.toJson), ("visible", .boolean s.window.visible),
  ("title", .text s.window.title), ("position", s.store.settings.placement.toJson)]

def runPlace (config : Config) (store : FileStore) (monitors : String) (t : Tree) : Result :=
  match readAs Monitor.listDecoder t monitors with
  | none => ⟨failure, "", t⟩
  | some ms =>
    match place config store.settings ms with
    | .error _ => ⟨overflowed, "", t⟩
    | .ok r => printed (placementJson r store.settings.placement.maximized) t

/-- Sets up a session over the settings file and plays a script on it. -/
def playScript (config : Config) (store : FileStore) (ms : List Monitor) (script : Script)
    (t : Tree) : Outcome FileStore (Except Settings.SaveError Unit × Session FileStore) := do
  let s := Session.start (.onMonitors ms .none) store t config
  let s ← s.begin store.settings.workMode.usesTray
  s.replay script

def runReplay (config : Config) (store : FileStore) (monitors script : String) (t : Tree) :
    Result :=
  match readAs Monitor.listDecoder t monitors, readAs Script.decoder t script with
  | some ms, some steps =>
    match playScript config store ms steps t with
    | .error h => ⟨overflowed, "", h.session.files⟩
    | .ok (.error _, s) => ⟨failure, "", s.files⟩
    | .ok (.ok (), s) => printed (windowJson s) s.files
  | _, _ => ⟨failure, "", t⟩

/-- The configuration that a request names, if it can be loaded. -/
def config? (r : Request) (t : Tree) : Option Config :=
  match r.config with
  | some path => (Config.loadFrom t path).toOption
  | none => some .initial

def runRequest (r : Request) (t : Tree) : Result :=
  match config? r t with
  | none => ⟨failure, "", t⟩
  | some config =>
    let store := FileStore.openAt (r.settings.getD config.settingsPath) t
    match r.command with
    | .place monitors scale =>
      runPlace { config with scale := scale.getD config.scale } store monitors t
    | .replay monitors script => runReplay config store monitors script t

def run (args : List String) (t : Tree) : Result :=
  match Request.ofArguments args with
  | some r => runRequest r t
  | none => ⟨usageError, "", t⟩

end WindowKeeper.CommandLine
