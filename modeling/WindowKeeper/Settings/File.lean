import WindowKeeper.Form.Settings
import WindowKeeper.Files.Tree

namespace WindowKeeper.Settings

inductive LoadError
  | absent
  | tooLarge (bytes : Nat)
  | unreadable
  | invalid (fault : Json.Fault)
  deriving DecidableEq, Repr

inductive SaveError
  /-- The temporary file could not be written. -/
  | notWritten
  /-- The temporary file could not take the place of the settings file. -/
  | notRenamed
  deriving DecidableEq, Repr

def largestFile : Nat := 65536

/-- What is said of a file that is too large. -/
def tooLargeMessage (bytes : Nat) : String :=
  "file too large: " ++ toString bytes ++ " bytes (max " ++ toString largestFile ++ ")"

def loadFrom (t : Tree) (path : String) : Except LoadError Settings :=
  match t.find? path with
  | none => .error .absent
  | some .directory => .error .unreadable
  | some (.file c) =>
    if largestFile < c.length then .error (.tooLarge c.length)
    else
      match c with
      | .text s => (ofText s).mapError .invalid
      | _ => .error .unreadable

def temporaryPath (path : String) : String := Path.withExtension path "json.tmp"

/-- The effects that replace the settings file. -/
def saveEffects (path : String) (s : Settings) : List FileEffect :=
  [.write (temporaryPath path) s.toText, .remove path, .rename (temporaryPath path) path]

/-- The error that an effect's failure amounts to. -/
def saveError : FileEffect → SaveError
  | .write _ _ => .notWritten
  | _ => .notRenamed

def save (path : String) (s : Settings) (t : Tree) : Except SaveError Unit × Tree :=
  match FileEffect.perform (saveEffects path s) t with
  | (t, none) => (.ok (), t)
  | (t, some e) => (.error (saveError e), t)

/-- Saves, and after a failure saves again up to `n` times. -/
def saveAgain (path : String) (s : Settings) : Nat → Tree → Except SaveError Unit × Tree
  | 0, t => save path s t
  | n + 1, t =>
    match save path s t with
    | (.ok (), t) => (.ok (), t)
    | (.error _, t) => saveAgain path s n t

/-- Saves in up to three attempts. -/
def saveWithRetry (path : String) (s : Settings) (t : Tree) : Except SaveError Unit × Tree :=
  saveAgain path s 2 t

end WindowKeeper.Settings
