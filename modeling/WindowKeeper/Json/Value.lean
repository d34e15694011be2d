namespace WindowKeeper

/-- The values that are written: numbers are integers. -/
inductive Json
  | null
  | boolean (b : Bool)
  | integer (n : Int)
  | text (s : String)
  | array (xs : List Json)
  | object (ms : List (String × Json))
  deriving Repr, Inhabited

namespace Json

def hexDigit (n : Nat) : Char := (Nat.toDigits 16 n).headD '0'

/-- A character inside a written string. -/
def escaped (c : Char) : List Char :=
  if c = '"' then ['\\', '"']
  else if c = '\\' then ['\\', '\\']
  else if c = '\n' then ['\\', 'n']
  else if c = '\r' then ['\\', 'r']
  else if c = '\t' then ['\\', 't']
  else if c.toNat = 8 then ['\\', 'b']
  else if c.toNat = 12 then ['\\', 'f']
  else if c.toNat < 32 then ['\\', 'u', '0', '0', hexDigit (c.toNat / 16), hexDigit (c.toNat % 16)]
  else [c]

def writeText (s : String) : List Char := '"' :: s.toList.flatMap escaped ++ ['"']

def writeInteger (n : Int) : List Char :=
  if n < 0 then '-' :: Nat.toDigits 10 n.natAbs else Nat.toDigits 10 n.natAbs

/-- The blanks between tokens. -/
structure Spacing where
  /-- What stands before each element or member, and before the closing bracket, at a depth. -/
  line : Nat → List Char
  /-- What stands after a colon. -/
  colon : List Char

def Spacing.none : Spacing := ⟨fun _ => [], []⟩

def Spacing.indented : Spacing := ⟨fun depth => '\n' :: List.replicate (2 * depth) ' ', [' ']⟩

mutual

def write (s : Spacing) (depth : Nat) : Json → List Char
  | .null => ['n', 'u', 'l', 'l']
  | .boolean true => ['t', 'r', 'u', 'e']
  | .boolean false => ['f', 'a', 'l', 's', 'e']
  | .integer n => writeInteger n
  | .text t => writeText t
  | .array [] => ['[', ']']
  | .array (x :: xs) =>
    '[' :: s.line (depth + 1) ++ write s (depth + 1) x ++ writeElements s (depth + 1) xs ++
      s.line depth ++ [']']
  | .object [] => ['\x7b', '\x7d']
  | .object ((k, x) :: ms) =>
    '\x7b' :: s.line (depth + 1) ++ writeText k ++ ':' :: s.colon ++ write s (depth + 1) x ++
      writeMembers s (depth + 1) ms ++ s.line depth ++ ['\x7d']

/-- The elements after the first. -/
def writeElements (s : Spacing) (depth : Nat) : List Json → List Char
  | [] => []
  | x :: xs => ',' :: s.line depth ++ write s depth x ++ writeElements s depth xs

/-- The members after the first. -/
def writeMembers (s : Spacing) (depth : Nat) : List (String × Json) → List Char
  | [] => []
  | (k, x) :: ms =>
    ',' :: s.line depth ++ writeText k ++ ':' :: s.colon ++ write s depth x ++
      writeMembers s depth ms

end

def compact (x : Json) : String := String.ofList (x.write .none 0)

def pretty (x : Json) : String := String.ofList (x.write .indented 0)

end Json

end WindowKeeper
