import WindowKeeper.Json.Token

namespace WindowKeeper.CommandLine

inductive Command
  | place (monitors : String) (scale : Option Int)
  | replay (monitors script : String)
  deriving DecidableEq, Repr

structure Request where
  config : Option String
  settings : Option String
  command : Command
  deriving DecidableEq, Repr

/-- Options with their values, the last one first. -/
abbrev Options := List (String × String)

/-- An argument of the form `--name` or `--name=value`. -/
def option? (arg : String) : Option (String × Option String) :=
  match arg.toList with
  | '-' :: '-' :: c :: cs =>
    match (c :: cs).span (· ≠ '=') with
    | (name, []) => some (String.ofList name, none)
    | (name, _ :: value) => some (String.ofList name, some (String.ofList value))
  | _ => none

/-- Whether an argument can be the value of the option before it. -/
def isValue (arg : String) : Bool := arg.toList.head? ≠ some '-' || arg = "-"

/-- Reads options with the given names, none of them twice and none empty, up to the first argument
that is no option. -/
def readOptions (names : List String) : List String → Options → Option (Options × List String)
  | [], found => some (found, [])
  | arg :: rest, found =>
    match option? arg with
    | none => some (found, arg :: rest)
    | some (name, value) =>
      if !names.contains name || (found.lookup name).isSome then none
      else
        match value, rest with
        | some v, rest => if v = "" then none else readOptions names rest ((name, v) :: found)
        | none, v :: rest =>
          if v = "" || !isValue v then none else readOptions names rest ((name, v) :: found)
        | none, [] => none

/-- A 32-bit number with an optional sign. -/
def readInt32 (s : String) : Option Int :=
  let (negative, digits) : Bool × List Char :=
    match s.toList with
    | '-' :: ds => (true, ds)
    | '+' :: ds => (false, ds)
    | ds => (false, ds)
  match digits.mapM Json.digit? with
  | none => none
  | some [] => none
  | some ds =>
    let n : Int := Json.Numeral.ofDigits ds
    let n := if negative then -n else n
    if Fits32 n then some n else none

/-- Whether nothing is left to be read; two dashes may mark the end of the options. -/
def isEnd (rest : List String) : Bool := rest = [] || rest = ["--"]

def readCommand : List String → Option Command
  | "place" :: args => do
    let (options, rest) ← readOptions ["monitors", "scale"] args []
    if !isEnd rest then none
    let monitors ← options.lookup "monitors"
    match options.lookup "scale" with
    | none => return .place monitors none
    | some s => return .place monitors (some (← readInt32 s))
  | "replay" :: args => do
    let (options, rest) ← readOptions ["monitors", "script"] args []
    if !isEnd rest then none
    return .replay (← options.lookup "monitors") (← options.lookup "script")
  | _ => none

/-- The request that arguments make, if they make one. -/
def Request.ofArguments (args : List String) : Option Request := do
  let (options, rest) ← readOptions ["config", "settings"] args []
  return ⟨options.lookup "config", options.lookup "settings", ← readCommand rest⟩

end WindowKeeper.CommandLine
