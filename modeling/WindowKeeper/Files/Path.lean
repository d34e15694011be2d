namespace WindowKeeper.Path

/-- The pieces of a text between slashes, empty ones included. -/
def pieces : List Char → List (List Char)
  | [] => [[]]
  | '/' :: cs => [] :: pieces cs
  | c :: cs =>
    match pieces cs with
    | p :: ps => (c :: p) :: ps
    | [] => [[c]]

/-- The steps of a path, with what stands before the first slash. -/
def steps (path : String) : List String := (pieces path.toList).map String.ofList

/-- A path inside a directory. An absolute path stays as it is. -/
def join (dir name : String) : String :=
  if name.toList.head? = some '/' then name
  else if dir = "" ∨ dir.toList.getLast? = some '/' then dir ++ name
  else dir ++ "/" ++ name

/-- The path with repeated slashes and idle dots taken out. A leading dot stays. -/
def tidy (path : String) : String :=
  match steps path with
  | [] => ""
  | first :: rest =>
    let kept := rest.filter fun s => s ≠ "" && s ≠ "."
    if path = "" then ""
    else if first = "" then "/" ++ String.intercalate "/" kept
    else String.intercalate "/" (first :: kept)

/-- A name without its last extension; a dot at its start begins no extension. -/
def stem (name : List Char) : List Char :=
  match name.reverse.dropWhile (· ≠ '.') with
  | [] => name
  | [_] => name
  | _ :: before => before.reverse

/-- The steps of a path from the last to the first, without idle ones at its end. -/
def lastSteps (path : String) : List String :=
  (steps path).reverse.dropWhile fun s => s = "" || s = "."

/-- The path whose last name has another last extension. A path that does not end in a name is left
alone. -/
def withExtension (path ext : String) : String :=
  match lastSteps path with
  | [] => path
  | name :: before =>
    if name = ".." then path
    else
      String.join (before.reverse.map (· ++ "/")) ++ String.ofList (stem name.toList) ++ "." ++ ext

end WindowKeeper.Path
