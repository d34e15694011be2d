import WindowKeeper.CommandLine

namespace WindowKeeper.Main

/-- What is at a path of the system. -/
def look (path : String) : IO (Option Node) := do
  try
    if ← (← IO.FS.realPath path).isDir then return some .directory
    let bytes ← IO.FS.readBinFile path
    match String.fromUTF8? bytes with
    | some s => return some (.file (.text s))
    | none => return some (.file (.bytes bytes.toList))
  catch _ => return none

/-- The paths that end with each step of a path. -/
def stages (path : String) : List String :=
  let steps := Path.steps path
  (List.range steps.length).map fun n => String.intercalate "/" (steps.take (n + 1))

/-- Adds to the tree what is at a path and on the way to it. -/
def observe (t : Tree) (path : String) : IO Tree :=
  (stages path).foldlM (fun t stage => do
    match t.locate stage with
    | none => return t
    | some k =>
      match ← look stage with
      | some n => return t.put k n
      | none => return t) t

/-- The paths that a request names besides the configuration. -/
def named (r : CommandLine.Request) (settings : String) : List String :=
  [settings, Settings.temporaryPath settings] ++
    match r.command with
    | .place monitors _ => [monitors]
    | .replay monitors script => [monitors, script]

/-- Makes the file at a path what it is in the tree after the run. -/
def putBack (before after : Tree) (path : String) : IO Unit := do
  if before.find? path ≠ after.find? path then
    match after.find? path with
    | some (.file (.text s)) => IO.FS.writeFile path s
    | none => IO.FS.removeFile path
    | _ => return

def runRequest (r : CommandLine.Request) : IO UInt32 := do
  let t ← match r.config with
    | some path => observe .empty path
    | none => pure .empty
  let settings := r.settings.getD ((CommandLine.config? r t).getD .initial).settingsPath
  let t ← (named r settings).foldlM observe t
  let result := CommandLine.runRequest r t
  putBack t result.files settings
  putBack t result.files (Settings.temporaryPath settings)
  IO.print result.output
  return UInt32.ofNat result.exit

end WindowKeeper.Main

def main (args : List String) : IO UInt32 := do
  match WindowKeeper.CommandLine.Request.ofArguments args with
  | some r => WindowKeeper.Main.runRequest r
  | none => return UInt32.ofNat WindowKeeper.CommandLine.usageError
