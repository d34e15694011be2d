import WindowKeeper.Files.Path
import WindowKeeper.Icon.Image

namespace WindowKeeper

inductive FileContent
  | text (s : String)
  /-- Bytes that are no text. -/
  | bytes (bs : List UInt8)
  | picture (im : Image)
  deriving DecidableEq, Repr

inductive Node
  | directory
  | file (c : FileContent)
  deriving DecidableEq, Repr

/-- The names that lead to a place from the working directory. It begins with `..` above the working
directory, and with `/` if it is counted from the root. -/
abbrev Location := List String

@[ext]
structure Tree where
  entries : List (Location × Node)
  deriving DecidableEq, Repr

namespace FileContent

/-- The length of a file in bytes, as far as it matters. -/
def length : FileContent → Nat
  | .text s => s.utf8ByteSize
  | .bytes bs => bs.length
  | .picture _ => 0

end FileContent

namespace Tree

def empty : Tree := ⟨[]⟩

/-- The working directory, those above it, and the root are always there. -/
def isStanding (k : Location) : Bool := k = ["/"] || k.all (· = "..")

/-- What is at a location. -/
def at? (t : Tree) (k : Location) : Option Node :=
  if isStanding k then some .directory else t.entries.lookup k

def put (t : Tree) (k : Location) (n : Node) : Tree :=
  ⟨(k, n) :: t.entries.filter fun e => e.1 ≠ k⟩

def erase (t : Tree) (k : Location) : Tree := ⟨t.entries.filter fun e => e.1 ≠ k⟩

def isDirectory (t : Tree) (k : Location) : Bool := t.at? k = some .directory

/-- One step from a directory. -/
def advance (k : Location) (s : String) : Location :=
  if s = "" ∨ s = "." then k
  else if s = ".." then
    if k = ["/"] then k else if k.all (· = "..") then k ++ [".."] else k.dropLast
  else k ++ [s]

/-- Follows steps from a location. -/
def walk (t : Tree) : List String → Location → Option Location
  | [], k => some k
  | s :: rest, k => if t.isDirectory k then walk t rest (advance k s) else none

/-- The location that a path leads to, whether or not something is there. -/
def locate (t : Tree) (path : String) : Option Location :=
  if path = "" then none
  else
    match Path.steps path with
    | "" :: rest => t.walk rest ["/"]
    | ss => t.walk ss []

def find? (t : Tree) (path : String) : Option Node := (t.locate path).bind t.at?

def readText? (t : Tree) (path : String) : Option String :=
  match t.find? path with
  | some (.file (.text s)) => some s
  | _ => none

def isFile (t : Tree) (path : String) : Bool :=
  match t.find? path with
  | some (.file _) => true
  | _ => false

/-- Writes a file in place of any file of that path. -/
def write? (t : Tree) (path text : String) : Option Tree := do
  let k ← t.locate path
  if t.isDirectory k then none else some (t.put k (.file (.text text)))

/-- Removes a file. What is no file stays. -/
def remove (t : Tree) (path : String) : Tree :=
  match t.locate path with
  | some k => if t.isDirectory k then t else t.erase k
  | none => t

/-- Moves a file, in place of any file of the other path. -/
def rename? (t : Tree) (source target : String) : Option Tree := do
  let k ← t.locate source
  let l ← t.locate target
  match t.at? k with
  | some (.file c) => if t.isDirectory l then none else some ((t.erase k).put l (.file c))
  | _ => none

/-- Adds a directory with all directories above it. -/
def makeDirectory (t : Tree) (k : Location) : Tree :=
  ((List.range k.length).map fun n => k.take (n + 1)).foldl
    (fun t d => if (t.at? d).isSome then t else t.put d .directory) t

/-- Adds something with all directories above it. -/
def addAt (t : Tree) (path : String) (n : Node) : Tree :=
  let k := (Path.steps path).filter fun s => s ≠ "" && s ≠ "."
  let t := t.makeDirectory k.dropLast
  if n = .directory then t.makeDirectory k else t.put k n

end Tree

/-- A change of files that happens entirely or not at all. -/
inductive FileEffect
  | write (path text : String)
  | remove (path : String)
  | rename (source target : String)
  deriving DecidableEq, Repr

/-- The files after an effect, or none if it cannot happen. -/
def FileEffect.apply? (t : Tree) : FileEffect → Option Tree
  | .write path text => t.write? path text
  | .remove path => some (t.remove path)
  | .rename source target => t.rename? source target

/-- Performs effects up to the first that fails, which is given as well. -/
def FileEffect.perform : List FileEffect → Tree → Tree × Option FileEffect
  | [], t => (t, none)
  | e :: es, t =>
    match e.apply? t with
    | some t => perform es t
    | none => (t, some e)

end WindowKeeper
