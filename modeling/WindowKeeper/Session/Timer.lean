namespace WindowKeeper

/-- An event on its way, sent when its time has come. -/
structure Alarm (ε : Type) where
  due : Nat
  event : ε
  deriving DecidableEq, Repr

/-- The time in milliseconds and the alarms that are set, in the order in which they were set. -/
@[ext]
structure Clock (ε : Type) where
  now : Nat
  alarms : List (Alarm ε)
  deriving DecidableEq, Repr

namespace Clock

variable {ε : Type}

def start : Clock ε := ⟨0, []⟩

def set (c : Clock ε) (delay : Nat) (e : ε) : Clock ε :=
  { c with alarms := c.alarms ++ [⟨c.now + delay, e⟩] }

def unset [DecidableEq ε] (c : Clock ε) (e : ε) : Clock ε :=
  { c with alarms := c.alarms.filter fun a => a.event ≠ e }

/-- The earliest of some alarms, the first of equals, and the others. -/
def earliest : Alarm ε → List (Alarm ε) → Alarm ε × List (Alarm ε)
  | a, [] => (a, [])
  | a, b :: rest =>
    let (c, others) := earliest b rest
    if a.due ≤ c.due then (a, b :: rest) else (c, a :: others)

/-- Lets time pass up to the earliest alarm before the deadline, and takes its event. -/
def next? (c : Clock ε) (deadline : Nat) : Option (ε × Clock ε) :=
  match c.alarms with
  | [] => none
  | a :: rest =>
    let (b, others) := earliest a rest
    if b.due < deadline then some (b.event, ⟨max c.now b.due, others⟩) else none

/-- The events of at most `n` alarms before the deadline, in their order. -/
def collect (deadline : Nat) : Nat → Clock ε → List ε × Clock ε
  | 0, c => ([], c)
  | n + 1, c =>
    match c.next? deadline with
    | none => ([], c)
    | some (e, c) =>
      let (es, c) := collect deadline n c
      (e :: es, c)

/-- Lets time pass. Gives the events of the alarms that went off. -/
def pass (c : Clock ε) (ms : Nat) : List ε × Clock ε :=
  let (es, d) := collect (c.now + ms) c.alarms.length c
  (es, { d with now := c.now + ms })

end Clock

/-- A timer that waits for rest: each call starts its delay anew. -/
@[ext]
structure Timer where
  delay : Nat
  /-- The number of the latest call. -/
  generation : UInt64
  /-- Whether the latest call has been neither cancelled nor confirmed. -/
  pending : Bool
  deriving DecidableEq, Repr

namespace Timer

variable {ε : Type} [DecidableEq ε]

def withDelay (delay : Nat) : Timer := ⟨delay, 0, false⟩

/-- Cancels the latest call. Its event is no longer sent, unless it has been sent already. -/
def cancel (t : Timer) (event : UInt64 → ε) (c : Clock ε) : Timer × Clock ε :=
  if t.pending then ({ t with pending := false }, c.unset (event t.generation)) else (t, c)

/-- Starts the delay anew. -/
def call (t : Timer) (event : UInt64 → ε) (c : Clock ε) : Timer × Clock ε :=
  let (t, c) := t.cancel event c
  let g := t.generation + 1
  ({ t with generation := g, pending := true }, c.set t.delay (event g))

/-- Whether an event is that of the latest call, which it settles. -/
def confirm (t : Timer) (generation : UInt64) : Bool × Timer :=
  if t.pending && generation == t.generation then (true, { t with pending := false })
  else (false, t)

end Timer

end WindowKeeper
