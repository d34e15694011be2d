import WindowKeeper.Overflow
import WindowKeeper.Numeric.Binary64

namespace WindowKeeper.Json

/-- What a numeral denotes: an integer while it has neither fraction nor exponent and fits 64 bits,
or else a double, as `-0` does. -/
inductive Number
  | integer (n : Int)
  | real (negative : Bool) (size : Rat)
  /-- Larger than every double. -/
  | tooLarge
  deriving DecidableEq, Repr

/-- The parts of a numeral, each digit sequence with its last digit first. -/
structure Numeral where
  negative : Bool
  whole : List Nat
  fraction : Option (List Nat)
  /-- The exponent: whether it is negative, and its digits. -/
  power : Option (Bool × List Nat)
  deriving DecidableEq, Repr

namespace Numeral

def largestSignificand : Nat := 18446744073709551615

/-- Appends digits to a significand for as long as it fits 64 bits, and gives the digits left. -/
def absorb (s : Nat) : List Nat → Nat × List Nat
  | [] => (s, [])
  | d :: ds => if s * 10 + d ≤ largestSignificand then absorb (s * 10 + d) ds else (s, d :: ds)

def ofDigits (ds : List Nat) : Nat := ds.foldl (fun n d => n * 10 + d) 0

def ofDouble (negative : Bool) : Option Rat → Number
  | some q => .real negative q
  | none => .tooLarge

/-- The double `s · 10^e` times the power of ten of the numeral. An exponent beyond 32 bits makes a
number other than zero too large or zero. -/
def scaled (n : Numeral) (s : Nat) (e : Int) : Number :=
  match n.power with
  | none => ofDouble n.negative (Numeric.Binary64.ofScientific s e)
  | some (below, ds) =>
    let p := ofDigits ds.reverse
    if (p : Int) ≤ int32Max then
      let e := saturate32 (if below then e - p else e + p)
      ofDouble n.negative (Numeric.Binary64.ofScientific s e)
    else if s ≠ 0 ∧ ¬ below then .tooLarge
    else .real n.negative 0

/-- A numeral with nothing after its whole digits. -/
def integer (negative : Bool) (s : Nat) : Number :=
  if !negative then .integer s
  else if s ≠ 0 ∧ s ≤ 9223372036854775808 then .integer (-(s : Int))
  else .real true (Numeric.Binary64.round s)

/-- The number that a numeral denotes. Whole digits past the 64 bits raise the exponent, fraction
digits past them are dropped. -/
def value (n : Numeral) : Number :=
  let (s, left) := absorb 0 n.whole.reverse
  if n.fraction = none ∧ n.power = none ∧ left = [] then integer n.negative s
  else
    let fraction := (n.fraction.getD []).reverse
    let (s, dropped) := absorb s fraction
    n.scaled s ((left.length : Int) - ((fraction.length : Int) - (dropped.length : Int)))

end Numeral

end WindowKeeper.Json
