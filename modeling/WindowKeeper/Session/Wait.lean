import WindowKeeper.Session.Handle

namespace WindowKeeper.Session

variable {σ : Type} [Store σ]

/-- The next event before a deadline, queued or sent by an alarm. -/
def nextEvent? (s : Session σ) (deadline : Nat) : Option (Event × Session σ) :=
  match s.queue with
  | e :: rest => some (e, { s with queue := rest })
  | [] => (s.clock.next? deadline).map fun p => (p.1, { s with clock := p.2 })

/-- A number of turns that is enough for all that waits: an event and what it causes take at most
eight, and so does an alarm. -/
def turns (s : Session σ) : Nat := 8 * (s.queue.length + s.clock.alarms.length)

def setTime (s : Session σ) (now : Nat) : Session σ :=
  { s with clock := { s.clock with now := now } }

def waitUntil (deadline : Nat) : Nat → Session σ → Outcome σ (Session σ)
  | 0, s => .ok (s.setTime deadline)
  | n + 1, s =>
    match s.nextEvent? deadline with
    | none => .ok (s.setTime deadline)
    | some (e, s) => do waitUntil deadline n (← handle s e)

/-- Handles events, those of timers included, for a time. -/
def wait (s : Session σ) (ms : Nat) : Outcome σ (Session σ) :=
  waitUntil (s.clock.now + ms) s.turns s

/-- Lets time pass without handling anything: timers only queue their events. -/
def advance (s : Session σ) (ms : Nat) : Session σ :=
  let (es, c) := s.clock.pass ms
  { s with queue := s.queue ++ es, clock := c }

def runUntil (deadline : Nat) :
    Nat → Session σ → Outcome σ (Option (Except Settings.SaveError Unit) × Session σ)
  | n, s =>
    if s.quitting then do
      let (r, s) ← shutdown s
      return (some r, s)
    else
      match n, s.nextEvent? deadline with
      | n + 1, some (e, s) => do runUntil deadline n (← handle s e)
      | _, _ => .ok (none, s.setTime deadline)

/-- Handles events until the session quits, and shuts it down. Gives up after a time. -/
def run (s : Session σ) (ms : Nat) :
    Outcome σ (Option (Except Settings.SaveError Unit) × Session σ) :=
  runUntil (s.clock.now + ms) s.turns s

end WindowKeeper.Session
