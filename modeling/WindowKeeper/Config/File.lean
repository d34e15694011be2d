import WindowKeeper.Files.Tree
import WindowKeeper.Form.Config

namespace WindowKeeper.Config

inductive LoadError
  | unreadable (path : String)
  | invalid (fault : Json.Fault)
  deriving DecidableEq, Repr

/-- What is said of a file that cannot be read. -/
def unreadableMessage (path : String) : String :=
  "failed to read config " ++ path ++ ": no text can be read there"

def loadFrom (t : Tree) (path : String) : Except LoadError Config :=
  match t.readText? path with
  | some s => (ofText s).mapError .invalid
  | none => .error (.unreadable path)

end WindowKeeper.Config
