import WindowKeeper.Json.Token

namespace WindowKeeper.Json

mutual

/-- The tree of a JSON text as far as it can be read; it is broken where the text stops being
JSON. -/
inductive Fragment
  | broken
  | null
  | boolean (b : Bool)
  | number (n : Number)
  | text (s : Option String)
  | array (xs : Elements)
  | object (ms : Members)

inductive Elements
  | closed
  | broken
  | more (x : Fragment) (rest : Elements)

inductive Members
  | closed
  | broken
  /-- Something other than a string stands where a key should. -/
  | keyless (x : Fragment)
  | more (key : Option String) (x : Fragment) (rest : Members)

end

instance : Inhabited Fragment := ⟨.broken⟩

def Elements.ofReversed (xs : List Fragment) (tail : Elements) : Elements :=
  xs.foldl (fun rest x => .more x rest) tail

def Members.ofReversed (ms : List (Option String × Fragment)) (tail : Members) : Members :=
  ms.foldl (fun rest m => .more m.1 m.2 rest) tail

/-- A container in which a value is being read; what it holds already has the last item first. -/
inductive Frame
  | array (xs : List Fragment)
  | object (ms : List (Option String × Fragment)) (k : Option String)

/-- What may come next in the innermost container. -/
inductive Spot
  /-- The value that is the whole text. -/
  | top
  /-- An element, or if none has been read the end. -/
  | element (xs : List Fragment) (first : Bool)
  | afterElement (xs : List Fragment)
  /-- A key, or if none has been read the end. -/
  | key (ms : List (Option String × Fragment)) (first : Bool)
  | colon (ms : List (Option String × Fragment)) (k : Option String)
  | member (ms : List (Option String × Fragment)) (k : Option String)
  | afterMember (ms : List (Option String × Fragment))

/-- The tree under construction. -/
inductive Progress
  | reading (spot : Spot) (outer : List Frame)
  | done (x : Fragment)
  /-- The text is not JSON, or goes on after its value. -/
  | stopped (x : Fragment)

/-- The innermost container, cut off where it is. -/
def Spot.cutOff : Spot → Fragment
  | .top => .broken
  | .element xs _ => .array (.ofReversed xs .broken)
  | .afterElement xs => .array (.ofReversed xs .broken)
  | .key ms _ => .object (.ofReversed ms .broken)
  | .colon ms k => .object (.ofReversed ((k, .broken) :: ms) .broken)
  | .member ms k => .object (.ofReversed ((k, .broken) :: ms) .broken)
  | .afterMember ms => .object (.ofReversed ms .broken)

/-- A container whose last item, itself cut off, is `x`. -/
def Frame.cutOff (x : Fragment) : Frame → Fragment
  | .array xs => .array (.ofReversed (x :: xs) .broken)
  | .object ms k => .object (.ofReversed ((k, x) :: ms) .broken)

namespace Progress

def initial : Progress := .reading .top []

def stop (x : Fragment) (outer : List Frame) : Progress := .stopped (outer.foldl Frame.cutOff x)

/-- Puts a complete value into the container around it. -/
def place (x : Fragment) : List Frame → Progress
  | [] => .done x
  | .array xs :: outer => .reading (.afterElement (x :: xs)) outer
  | .object ms k :: outer => .reading (.afterMember ((k, x) :: ms)) outer

/-- Takes the first token of a value inside the given containers. -/
def begin (t : Token) (outer : List Frame) (spot : Spot) (before : List Frame) : Progress :=
  match t with
  | .null => place .null outer
  | .boolean b => place (.boolean b) outer
  | .number n => place (.number n) outer
  | .text s => place (.text s) outer
  | .openBracket => .reading (.element [] true) outer
  | .openBrace => .reading (.key [] true) outer
  | _ => stop spot.cutOff before

/-- What stands in the place of a key, as much of it as matters. -/
def keyless? : Token → Option Fragment
  | .null => some .null
  | .boolean b => some (.boolean b)
  | .number n => some (.number n)
  | .openBracket => some (.array .broken)
  | .openBrace => some (.object .broken)
  | _ => none

def push (p : Progress) (t : Token) : Progress :=
  match p with
  | .stopped x => .stopped x
  | .done x => .stopped x
  | .reading spot outer =>
    match spot, t with
    | .element xs true, .closeBracket => place (.array (.ofReversed xs .closed)) outer
    | .afterElement xs, .closeBracket => place (.array (.ofReversed xs .closed)) outer
    | .afterElement xs, .comma => .reading (.element xs false) outer
    | .key ms true, .closeBrace => place (.object (.ofReversed ms .closed)) outer
    | .afterMember ms, .closeBrace => place (.object (.ofReversed ms .closed)) outer
    | .afterMember ms, .comma => .reading (.key ms false) outer
    | .key ms _, .text s => .reading (.colon ms s) outer
    | .key ms first, t =>
      match keyless? t with
      | some x => stop (.object (.ofReversed ms (.keyless x))) outer
      | none => stop (Spot.key ms first).cutOff outer
    | .colon ms k, .colon => .reading (.member ms k) outer
    | .top, t => begin t outer spot outer
    | .element xs _, t => begin t (.array xs :: outer) spot outer
    | .member ms k, t => begin t (.object ms k :: outer) spot outer
    | spot, _ => stop spot.cutOff outer

end Progress

/-- A text that is being read. -/
structure Reader where
  scanner : Scanner
  progress : Progress

namespace Reader

def initial : Reader := ⟨.between, .initial⟩

def step (r : Reader) (c : Char) : Reader :=
  let (s, ts) := r.scanner.step c
  ⟨s, ts.foldl Progress.push r.progress⟩

/-- The tree of the text read, and whether the text ends with its value. -/
def finish (r : Reader) : Fragment × Bool :=
  match r.scanner.finish.foldl Progress.push r.progress with
  | .done x => (x, true)
  | .stopped x => (x, false)
  | .reading spot outer => (outer.foldl Frame.cutOff spot.cutOff, false)

end Reader

def Fragment.ofChars (cs : List Char) : Fragment × Bool := (cs.foldl Reader.step .initial).finish

end WindowKeeper.Json
