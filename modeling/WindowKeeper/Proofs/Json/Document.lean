import WindowKeeper.Json.Decoder
import WindowKeeper.Json.Value

namespace WindowKeeper.Json

inductive Blank
  | space
  | tab
  | newline
  | carriageReturn
  deriving DecidableEq

def Blank.char : Blank → Char
  | .space => ' '
  | .tab => '\t'
  | .newline => '\n'
  | .carriageReturn => '\r'

def blanks (bs : List Blank) : List Char := bs.map Blank.char

@[simp] theorem blanks_nil : blanks [] = [] := rfl

structure HexDigit where
  value : Fin 16
  upper : Bool
  deriving DecidableEq

def HexDigit.char (h : HexDigit) : Char :=
  if h.upper then (hexDigit h.value).toUpper else hexDigit h.value

/-- The characters that are written as a backslash and a letter. -/
inductive Letter
  | quote
  | backslash
  | slash
  | backspace
  | formFeed
  | newline
  | carriageReturn
  | tab
  deriving DecidableEq

/-- What stands after the backslash. -/
def Letter.char : Letter → Char
  | .quote => '"'
  | .backslash => '\\'
  | .slash => '/'
  | .backspace => 'b'
  | .formFeed => 'f'
  | .newline => 'n'
  | .carriageReturn => 'r'
  | .tab => 't'

def Letter.meaning : Letter → Char
  | .quote => '"'
  | .backslash => '\\'
  | .slash => '/'
  | .backspace => '\x08'
  | .formFeed => '\x0c'
  | .newline => '\n'
  | .carriageReturn => '\r'
  | .tab => '\t'

/-- A piece of a written string. -/
inductive Piece
  | plain (c : Char) (h : 32 ≤ c.toNat ∧ c ≠ '"' ∧ c ≠ '\\')
  | letter (l : Letter)
  /-- A code unit of sixteen bits. -/
  | unit (a b c d : HexDigit)

namespace Piece

def chars : Piece → List Char
  | .plain c _ => [c]
  | .letter l => ['\\', l.char]
  | .unit a b c d => ['\\', 'u', a.char, b.char, c.char, d.char]

def unitValue (a b c d : HexDigit) : Nat := ((a.value * 16 + b.value) * 16 + c.value) * 16 + d.value

/-- What the pieces of a string mean; nothing, if one of them is half of a surrogate pair and its
other half does not stand beside it. -/
def meaning : List Piece → Option (List Char)
  | [] => some []
  | .plain c _ :: ps => (c :: ·) <$> meaning ps
  | .letter l :: ps => (l.meaning :: ·) <$> meaning ps
  | .unit a b c d :: ps =>
    let n := unitValue a b c d
    if 0xD800 ≤ n ∧ n < 0xDC00 then
      match ps with
      | .unit a b c d :: qs =>
        let m := unitValue a b c d
        if 0xDC00 ≤ m ∧ m < 0xE000 then
          (Char.ofNat (0x10000 + (n - 0xD800) * 0x400 + (m - 0xDC00)) :: ·) <$> meaning qs
        else none
      | _ => none
    else if 0xDC00 ≤ n ∧ n < 0xE000 then none
    else (Char.ofNat n :: ·) <$> meaning ps

end Piece

/-- A string with its quotation marks. -/
def quoted (ps : List Piece) : List Char := '"' :: ps.flatMap Piece.chars ++ ['"']

abbrev Digits := List (Fin 10)

def digits (ds : Digits) : List Char := ds.map fun d => Nat.digitChar d.val

structure Power where
  upper : Bool
  /-- Whether the exponent is negative, if it has a sign. -/
  sign : Option Bool
  first : Fin 10
  rest : Digits

/-- The parts of a written number. -/
structure Figures where
  negative : Bool
  first : Fin 10
  rest : Digits
  unpadded : first = 0 → rest = []
  fraction : Option (Fin 10 × Digits)
  power : Option Power

def signChars : Option Bool → List Char
  | none => []
  | some false => ['+']
  | some true => ['-']

def Power.chars (p : Power) : List Char :=
  (if p.upper then 'E' else 'e') :: signChars p.sign ++ digits (p.first :: p.rest)

namespace Figures

def chars (n : Figures) : List Char :=
  (if n.negative then ['-'] else []) ++ digits (n.first :: n.rest) ++
    (match n.fraction with
      | none => []
      | some (d, ds) => '.' :: digits (d :: ds)) ++
    (match n.power with
      | none => []
      | some p => p.chars)

/-- Digits with the last first. -/
def reversed (ds : Digits) : List Nat := (ds.map Fin.val).reverse

def numeral (n : Figures) : Numeral where
  negative := n.negative
  whole := reversed (n.first :: n.rest)
  fraction := n.fraction.map fun f => reversed (f.1 :: f.2)
  power := n.power.map fun p => (p.sign = some true, reversed (p.first :: p.rest))

end Figures

/-- The key of a member, with the blanks before it and around its colon. -/
structure Key where
  before : List Blank
  name : List Piece
  beforeColon : List Blank
  afterColon : List Blank

def Key.chars (k : Key) : List Char :=
  blanks k.before ++ quoted k.name ++ blanks k.beforeColon ++ ':' :: blanks k.afterColon

mutual

/-- A JSON value as it is written. -/
inductive Document
  | null
  | boolean (b : Bool)
  | number (n : Figures)
  | text (ps : List Piece)
  | emptyArray (gap : List Blank)
  | array (es : Items)
  | emptyObject (gap : List Blank)
  | object (ms : Entries)

/-- Values between commas, with the blanks around each. -/
inductive Items
  | last (before : List Blank) (x : Document) (after : List Blank)
  | more (before : List Blank) (x : Document) (after : List Blank) (rest : Items)

/-- Members between commas. -/
inductive Entries
  | last (k : Key) (x : Document) (after : List Blank)
  | more (k : Key) (x : Document) (after : List Blank) (rest : Entries)

end

mutual

def Document.chars : Document → List Char
  | .null => ['n', 'u', 'l', 'l']
  | .boolean true => ['t', 'r', 'u', 'e']
  | .boolean false => ['f', 'a', 'l', 's', 'e']
  | .number n => n.chars
  | .text ps => quoted ps
  | .emptyArray gap => '[' :: blanks gap ++ [']']
  | .array es => '[' :: es.chars ++ [']']
  | .emptyObject gap => '\x7b' :: blanks gap ++ ['\x7d']
  | .object ms => '\x7b' :: ms.chars ++ ['\x7d']

def Items.chars : Items → List Char
  | .last before x after => blanks before ++ x.chars ++ blanks after
  | .more before x after rest => blanks before ++ x.chars ++ blanks after ++ ',' :: rest.chars

def Entries.chars : Entries → List Char
  | .last k x after => k.chars ++ x.chars ++ blanks after
  | .more k x after rest => k.chars ++ x.chars ++ blanks after ++ ',' :: rest.chars

end

/-- What the pieces of a string denote. -/
def Piece.denoted (ps : List Piece) : Option String := (meaning ps).map String.ofList

mutual

/-- What a document denotes. -/
def Document.tree : Document → Fragment
  | .null => .null
  | .boolean b => .boolean b
  | .number n => .number n.numeral.value
  | .text ps => .text (Piece.denoted ps)
  | .emptyArray _ => .array .closed
  | .array es => .array es.tree
  | .emptyObject _ => .object .closed
  | .object ms => .object ms.tree

def Items.tree : Items → Elements
  | .last _ x _ => .more x.tree .closed
  | .more _ x _ rest => .more x.tree rest.tree

def Entries.tree : Entries → Members
  | .last k x _ => .more (Piece.denoted k.name) x.tree .closed
  | .more k x _ rest => .more (Piece.denoted k.name) x.tree rest.tree

end

mutual

/-- How many brackets are open inside one another. -/
def Document.depth : Document → Nat
  | .emptyArray _ => 1
  | .array es => es.depth + 1
  | .emptyObject _ => 1
  | .object ms => ms.depth + 1
  | _ => 0

def Items.depth : Items → Nat
  | .last _ x _ => x.depth
  | .more _ x _ rest => max x.depth rest.depth

def Entries.depth : Entries → Nat
  | .last _ x _ => x.depth
  | .more _ x _ rest => max x.depth rest.depth

end

mutual

/-- Whether all numbers are of a size that doubles have, and all strings of whole characters. -/
def Document.representable : Document → Bool
  | .number n => n.numeral.value ≠ .tooLarge
  | .text ps => (Piece.denoted ps).isSome
  | .array es => es.representable
  | .object ms => ms.representable
  | _ => true

def Items.representable : Items → Bool
  | .last _ x _ => x.representable
  | .more _ x _ rest => x.representable && rest.representable

def Entries.representable : Entries → Bool
  | .last k x _ => (Piece.denoted k.name).isSome && x.representable
  | .more k x _ rest =>
    (Piece.denoted k.name).isSome && x.representable && rest.representable

end

mutual

/-- Any value can be passed over. -/
theorem Document.skippable_tree (d : Document) : d.tree.skippable := by
  cases d with
  | array es => exact es.skippable_tree
  | object ms => exact ms.skippable_tree
  | _ => rfl

theorem Items.skippable_tree (es : Items) : es.tree.skippable := by
  cases es with
  | last before x after => simp [Items.tree, Elements.skippable, x.skippable_tree]
  | more before x after rest =>
    simp [Items.tree, Elements.skippable, x.skippable_tree, rest.skippable_tree]

theorem Entries.skippable_tree (ms : Entries) : ms.tree.skippable := by
  cases ms with
  | last k x after => simp [Entries.tree, Members.skippable, x.skippable_tree]
  | more k x after rest =>
    simp [Entries.tree, Members.skippable, x.skippable_tree, rest.skippable_tree]

end

mutual

/-- A value that is not nested too deeply can be stored. -/
theorem Document.storable_tree {d : Document} {room : Nat} (hdepth : d.depth ≤ room)
    (h : d.representable) : d.tree.storable room := by
  cases d with
  | number n =>
    simp only [Document.representable, decide_eq_true_eq] at h
    simp only [Document.tree]
    unfold Fragment.storable
    split <;> simp_all
  | text ps =>
    simp only [Document.representable] at h
    obtain ⟨s, hs⟩ := Option.isSome_iff_exists.mp h
    simp [Document.tree, hs, Fragment.storable]
  | array es =>
    simp only [Document.depth] at hdepth
    have hroom : 0 < room := by omega
    have hes : es.tree.storable (room - 1) := Items.storable_tree (by omega) h
    simp [Document.tree, Fragment.storable, hroom, hes]
  | object ms =>
    simp only [Document.depth] at hdepth
    have hroom : 0 < room := by omega
    have hms : ms.tree.storable (room - 1) := Entries.storable_tree (by omega) h
    simp [Document.tree, Fragment.storable, hroom, hms]
  | emptyArray gap =>
    have hroom : 0 < room := hdepth
    simp [Document.tree, Fragment.storable, Elements.storable, hroom]
  | emptyObject gap =>
    have hroom : 0 < room := hdepth
    simp [Document.tree, Fragment.storable, Members.storable, hroom]
  | _ => rfl

theorem Items.storable_tree {es : Items} {room : Nat} (hdepth : es.depth ≤ room)
    (h : es.representable) : es.tree.storable room := by
  cases es with
  | last before x after =>
    simp [Items.tree, Elements.storable, Document.storable_tree hdepth h]
  | more before x after rest =>
    obtain ⟨hx, hrest⟩ := Nat.max_le.mp hdepth
    simp only [Items.representable, Bool.and_eq_true] at h
    simp [Items.tree, Elements.storable, Document.storable_tree hx h.1,
      rest.storable_tree hrest h.2]

theorem Entries.storable_tree {ms : Entries} {room : Nat} (hdepth : ms.depth ≤ room)
    (h : ms.representable) : ms.tree.storable room := by
  cases ms with
  | last k x after =>
    simp only [Entries.representable, Bool.and_eq_true] at h
    simp [Entries.tree, Members.storable, h.1, Document.storable_tree hdepth h.2]
  | more k x after rest =>
    obtain ⟨hx, hrest⟩ := Nat.max_le.mp hdepth
    simp only [Entries.representable, Bool.and_eq_true] at h
    simp [Entries.tree, Members.storable, h.1.1, Document.storable_tree hx h.1.2,
      rest.storable_tree hrest h.2]

end

end WindowKeeper.Json
