import WindowKeeper.Json.Numeral

namespace WindowKeeper.Json

inductive Token
  | openBrace
  | closeBrace
  | openBracket
  | closeBracket
  | comma
  | colon
  | null
  | boolean (b : Bool)
  | number (n : Number)
  /-- A string, or none if its escapes name half of a surrogate pair. -/
  | text (s : Option String)
  /-- The text stops being JSON here. -/
  | bad
  deriving DecidableEq, Repr

/-- The part of a string that has been read. -/
structure Quote where
  /-- The last character first. -/
  chars : List Char
  /-- The first half of a surrogate pair, if the last escape was one. -/
  half : Option Nat
  whole : Bool
  deriving DecidableEq, Repr

namespace Quote

def empty : Quote := ⟨[], none, true⟩

def add (q : Quote) (c : Char) : Quote := ⟨c :: q.chars, none, q.whole && q.half.isNone⟩

/-- Adds the character of a four-digit escape, pairing surrogates. -/
def addUnit (q : Quote) (n : Nat) : Quote :=
  if 0xD800 ≤ n ∧ n < 0xDC00 then ⟨q.chars, some n, q.whole && q.half.isNone⟩
  else if 0xDC00 ≤ n ∧ n < 0xE000 then
    match q.half with
    | some h =>
      ⟨Char.ofNat (0x10000 + (h - 0xD800) * 0x400 + (n - 0xDC00)) :: q.chars, none, q.whole⟩
    | none => ⟨q.chars, none, false⟩
  else q.add (Char.ofNat n)

def token (q : Quote) : Token :=
  .text (if q.whole && q.half.isNone then some (String.ofList q.chars.reverse) else none)

end Quote

/-- Where in a numeral its last character stands. -/
inductive Place
  | sign
  | zero
  | whole
  | point
  | fraction
  | mark
  | markSign
  | power
  deriving DecidableEq, Repr

/-- The token that is being read. -/
inductive Scanner
  | between
  /-- Inside a literal name, with the letters that must follow. -/
  | word (next : Char) (rest : List Char) (t : Token)
  | text (q : Quote)
  | escape (q : Quote)
  /-- Inside a four-digit escape: its value so far and the number of digits to come. -/
  | unit (q : Quote) (value : Nat) (missing : Nat)
  | number (p : Place) (n : Numeral)
  deriving DecidableEq, Repr

def isBlank (c : Char) : Bool := c = ' ' || c = '\n' || c = '\t' || c = '\r'

def digit? (c : Char) : Option Nat :=
  if '0' ≤ c ∧ c ≤ '9' then some (c.toNat - 48) else none

def hexDigit? (c : Char) : Option Nat :=
  if '0' ≤ c ∧ c ≤ '9' then some (c.toNat - 48)
  else if 'a' ≤ c ∧ c ≤ 'f' then some (c.toNat - 87)
  else if 'A' ≤ c ∧ c ≤ 'F' then some (c.toNat - 55)
  else none

/-- The character of a one-letter escape. -/
def unescaped? (c : Char) : Option Char :=
  if c = '"' ∨ c = '\\' ∨ c = '/' then some c
  else if c = 'b' then some '\x08'
  else if c = 'f' then some '\x0c'
  else if c = 'n' then some '\n'
  else if c = 'r' then some '\r'
  else if c = 't' then some '\t'
  else none

namespace Numeral

def start (negative : Bool) (ds : List Nat) : Numeral := ⟨negative, ds, none, none⟩

def addWhole (n : Numeral) (d : Nat) : Numeral := { n with whole := d :: n.whole }

def addFraction (n : Numeral) (d : Nat) : Numeral :=
  { n with fraction := some (d :: n.fraction.getD []) }

def addPower (n : Numeral) (d : Nat) : Numeral :=
  { n with power := n.power.map fun p => (p.1, d :: p.2) }

/-- The place and the numeral after one more character that belongs to it. -/
def extend? (p : Place) (n : Numeral) (c : Char) : Option (Place × Numeral) :=
  match p, digit? c with
  | .sign, some 0 => some (.zero, n.addWhole 0)
  | .sign, some d => some (.whole, n.addWhole d)
  | .whole, some d => some (.whole, n.addWhole d)
  | .point, some d => some (.fraction, n.addFraction d)
  | .fraction, some d => some (.fraction, n.addFraction d)
  | .mark, some d => some (.power, n.addPower d)
  | .markSign, some d => some (.power, n.addPower d)
  | .power, some d => some (.power, n.addPower d)
  | _, _ =>
    if c = '.' ∧ (p = .zero ∨ p = .whole) then some (.point, { n with fraction := some [] })
    else if (c = 'e' ∨ c = 'E') ∧ (p = .zero ∨ p = .whole ∨ p = .fraction) then
      some (.mark, { n with power := some (false, []) })
    else if (c = '+' ∨ c = '-') ∧ p = .mark then
      some (.markSign, { n with power := some (decide (c = '-'), []) })
    else none

/-- The token of a numeral that ends here; a digit cannot follow a leading zero. -/
def token (p : Place) (n : Numeral) : Token :=
  match p with
  | .zero => .number n.value
  | .whole => .number n.value
  | .fraction => .number n.value
  | .power => .number n.value
  | _ => .bad

end Numeral

namespace Scanner

/-- Takes a character that begins a token or stands between tokens. -/
def start (c : Char) : Scanner × List Token :=
  if isBlank c then (.between, [])
  else if c = '\x7b' then (.between, [.openBrace])
  else if c = '\x7d' then (.between, [.closeBrace])
  else if c = '[' then (.between, [.openBracket])
  else if c = ']' then (.between, [.closeBracket])
  else if c = ',' then (.between, [.comma])
  else if c = ':' then (.between, [.colon])
  else if c = '"' then (.text .empty, [])
  else if c = 'n' then (.word 'u' ['l', 'l'] .null, [])
  else if c = 't' then (.word 'r' ['u', 'e'] (.boolean true), [])
  else if c = 'f' then (.word 'a' ['l', 's', 'e'] (.boolean false), [])
  else if c = '-' then (.number .sign (.start true []), [])
  else
    match digit? c with
    | some 0 => (.number .zero (.start false [0]), [])
    | some d => (.number .whole (.start false [d]), [])
    | none => (.between, [.bad])

def step (s : Scanner) (c : Char) : Scanner × List Token :=
  match s with
  | .between => start c
  | .word next rest t =>
    if c = next then
      match rest with
      | [] => (.between, [t])
      | next :: rest => (.word next rest t, [])
    else (.between, [.bad])
  | .text q =>
    if c = '"' then (.between, [q.token])
    else if c = '\\' then (.escape q, [])
    else if c.toNat < 32 then (.between, [.bad])
    else (.text (q.add c), [])
  | .escape q =>
    if c = 'u' then (.unit q 0 4, [])
    else
      match unescaped? c with
      | some d => (.text (q.add d), [])
      | none => (.between, [.bad])
  | .unit q value missing =>
    match hexDigit? c with
    | none => (.between, [.bad])
    | some d =>
      if missing ≤ 1 then (.text (q.addUnit (value * 16 + d)), [])
      else (.unit q (value * 16 + d) (missing - 1), [])
  | .number p n =>
    match n.extend? p c with
    | some (p, n) => (.number p n, [])
    | none =>
      if p = .zero ∧ (digit? c).isSome then (.between, [.bad])
      else
        let (s, ts) := start c
        (s, n.token p :: ts)

/-- The token that the end of the text ends. -/
def finish : Scanner → List Token
  | .between => []
  | .number p n => [n.token p]
  | _ => [.bad]

end Scanner

end WindowKeeper.Json
