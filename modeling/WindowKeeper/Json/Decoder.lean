import WindowKeeper.Json.Fault

namespace WindowKeeper.Json

/-- A value is decoded while its text is read, or after the whole of it has been read. -/
inductive Source
  | streamed
  | buffered
  deriving DecidableEq, Repr

/-- A decoder visits a tree in the order of its text and stops at the first fault. -/
abbrev Decoder (α : Type) := Source → Fragment → Except Fault α

mutual

/-- Whether a value nobody asked for can be passed over. -/
def Fragment.skippable : Fragment → Bool
  | .broken => false
  | .array xs => xs.skippable
  | .object ms => ms.skippable
  | _ => true

def Elements.skippable : Elements → Bool
  | .closed => true
  | .broken => false
  | .more x rest => x.skippable && rest.skippable

def Members.skippable : Members → Bool
  | .closed => true
  | .broken => false
  | .keyless _ => false
  | .more _ x rest => x.skippable && rest.skippable

end

mutual

/-- Whether a value can be read completely, opening at most `room` brackets inside one another. -/
def Fragment.storable (room : Nat) : Fragment → Bool
  | .broken => false
  | .number .tooLarge => false
  | .text none => false
  | .array xs => 0 < room && xs.storable (room - 1)
  | .object ms => 0 < room && ms.storable (room - 1)
  | _ => true

def Elements.storable (room : Nat) : Elements → Bool
  | .closed => true
  | .broken => false
  | .more x rest => x.storable room && rest.storable room

def Members.storable (room : Nat) : Members → Bool
  | .closed => true
  | .broken => false
  | .keyless _ => false
  | .more k x rest => k.isSome && x.storable room && rest.storable room

end

def Elements.length : Elements → Nat
  | .more _ rest => rest.length + 1
  | _ => 0

namespace Decoder

def integerIn (least greatest : Int) (wanted : String) : Decoder Int := fun _ x =>
  match x with
  | .number (.integer n) =>
    if least ≤ n ∧ n ≤ greatest then .ok n else .error (.outOfRange n wanted)
  | x => .error (x.mismatch wanted)

def int32 : Decoder Int := integerIn int32Min int32Max "i32"

def uint32 : Decoder Nat := fun src x => Int.toNat <$> integerIn 0 4294967295 "u32" src x

def uint64 : Decoder Nat := fun src x => Int.toNat <$> integerIn 0 18446744073709551615 "u64" src x

def boolean : Decoder Bool := fun _ x =>
  match x with
  | .boolean b => .ok b
  | x => .error (x.mismatch "a boolean")

def textAs (wanted : String) : Decoder String := fun _ x =>
  match x with
  | .text (some s) => .ok s
  | x => .error (x.mismatch wanted)

def text : Decoder String := textAs "a string"

def path : Decoder String := textAs "path string"

/-- A value, or null for none. -/
def nullable {α : Type} (d : Decoder α) : Decoder (Option α) := fun src x =>
  match x with
  | .null => .ok none
  | x => some <$> d src x

def elements {α : Type} (d : Decoder α) (src : Source) : Elements → Except Fault (List α)
  | .closed => .ok []
  | .broken => .error .malformed
  | .more x rest => do
    let a ← d src x
    return a :: (← elements d src rest)

def list {α : Type} (d : Decoder α) : Decoder (List α) := fun src x =>
  match x with
  | .array xs => elements d src xs
  | x => .error (x.mismatch "a sequence")

end Decoder

/-- When a field of a record may be left out. -/
inductive Presence
  | required
  /-- It may be missing from an object. -/
  | optional
  /-- It may be missing from an object, and from an array together with those after it. -/
  | defaulted
  deriving DecidableEq, Repr

structure Field (α : Type) where
  name : String
  presence : Presence
  /-- Decodes a value and stores it in the record. -/
  read : Source → Fragment → α → Except Fault α

/-- A field with a decoder of its own. -/
def Field.of {α β : Type} (name : String) (presence : Presence) (d : Decoder β)
    (set : β → α → α) : Field α :=
  ⟨name, presence, fun src x a => (set · a) <$> d src x⟩

/-- How a record is written. -/
structure Shape (α : Type) where
  /-- What messages call the record. -/
  title : String
  /-- The record before any field is read. -/
  blank : α
  fields : List (Field α)

/-- A number of elements. -/
def countElements (n : Nat) : String := toString n ++ (if n = 1 then " element" else " elements")

namespace Shape

variable {α : Type}

/-- Reads members into `a`, the fields named in `seen` having been read. -/
def readMembers (sh : Shape α) (src : Source) :
    Members → List String → α → Except Fault (List String × α)
  | .closed, seen, a => .ok (seen, a)
  | .broken, _, _ => .error .malformed
  | .keyless _, _, _ => .error .malformed
  | .more none _ _, _, _ => .error .malformed
  | .more (some k) x rest, seen, a =>
    match sh.fields.find? (·.name == k) with
    | none => if x.skippable then readMembers sh src rest seen a else .error .malformed
    | some f =>
      if seen.contains k then .error (.repeated k)
      else do readMembers sh src rest (k :: seen) (← f.read src x a)

/-- The first field that may not be left out and was. -/
def missing? (sh : Shape α) (seen : List String) : Option String :=
  (sh.fields.find? fun f => f.presence == .required && !seen.contains f.name).map (·.name)

def ofMembers (sh : Shape α) (src : Source) (ms : Members) : Except Fault α := do
  let (seen, a) ← sh.readMembers src ms [] sh.blank
  match sh.missing? seen with
  | some name => .error (.missing name)
  | none => .ok a

/-- Reads elements into the given fields, `n` elements having been read. -/
def readElements (sh : Shape α) (src : Source) :
    List (Field α) → Elements → Nat → α → Except Fault α
  | [], .closed, _, a => .ok a
  | [], rest, n, _ =>
    match src with
    | .streamed => .error .malformed
    | .buffered => .error (.wrongLength (n + rest.length) (countElements n ++ " in sequence"))
  | f :: fs, .closed, n, a =>
    if f.presence = .defaulted then readElements sh src fs .closed n a
    else .error (.wrongLength n (sh.title ++ " with " ++ countElements sh.fields.length))
  | _ :: _, .broken, _, _ => .error .malformed
  | f :: fs, .more x rest, n, a => do readElements sh src fs rest (n + 1) (← f.read src x a)

def decoder (sh : Shape α) : Decoder α := fun src x =>
  match x with
  | .object ms => sh.ofMembers src ms
  | .array xs => sh.readElements src sh.fields xs 0 sh.blank
  | x => .error (x.mismatch sh.title)

end Shape

/-- Named alternatives. One is written as its name, or as an object with the name as its only key
and null as the value. -/
abbrev Choice (α : Type) := List (String × α)

namespace Choice

variable {α : Type}

def find (c : Choice α) (name : String) : Except Fault α :=
  match c.lookup name with
  | some a => .ok a
  | none => .error (.unknownName name (c.map (·.1)))

/-- The alternative named by a value that must be a string. -/
def identifier (c : Choice α) : Decoder α := fun _ x =>
  match x with
  | .text (some s) => c.find s
  | x => .error (x.mismatch "variant identifier")

/-- What may stand beside the name in an object: null, or in a buffered value an empty object. -/
def unit : Decoder Unit := fun src x =>
  match src, x with
  | _, .null => .ok ()
  | .buffered, .object .closed => .ok ()
  | _, x => .error (x.mismatch "unit")

def streamed (c : Choice α) : Fragment → Except Fault α
  | .text (some s) => c.find s
  | .object (.more (some k) x rest) => do
    let a ← c.find k
    unit .streamed x
    match rest with
    | .closed => .ok a
    | _ => .error .malformed
  | .object (.keyless x) => .error (x.mismatch "variant identifier")
  | _ => .error .malformed

def buffered (c : Choice α) : Fragment → Except Fault α
  | .text (some s) => c.find s
  | .object (.more (some k) x .closed) => do
    let a ← c.find k
    unit .buffered x
    return a
  | .object _ => .error .severalKeys
  | x => .error (x.mismatch "string or map")

def decoder (c : Choice α) : Decoder α := fun src x =>
  match src with
  | .streamed => c.streamed x
  | .buffered => c.buffered x

end Choice

/-- Decodes a text, which must end with its value. -/
def decodeText {α : Type} (d : Decoder α) (s : String) : Except Fault α := do
  let (x, clean) := Fragment.ofChars s.toList
  let a ← d .streamed x
  if clean then .ok a else .error .malformed

end WindowKeeper.Json
