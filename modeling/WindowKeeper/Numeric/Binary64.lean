namespace WindowKeeper.Numeric

/-- The integer nearest to `q`, the even one of two. -/
def roundEven (q : Rat) : Int :=
  let f := q.floor
  let r := q - f
  if r < 1 / 2 then f else if 1 / 2 < r then f + 1 else if f % 2 = 0 then f else f + 1

/-- The part of `q` before the point. -/
def truncate (q : Rat) : Int := if q < 0 then q.ceil else q.floor

def magnitude (q : Rat) : Rat := if q < 0 then -q else q

/-- The largest `e` with `2 ^ e ≤ q`, for positive `q`. -/
def floorLog2 (q : Rat) : Int :=
  let e : Int := (q.num.natAbs.log2 : Int) - (q.den.log2 : Int)
  if q < (2 : Rat) ^ e then e - 1 else e

namespace Binary64

/-- The exponent of the last bit of a double near `q`; below the normal range it stays put. -/
def lastBit (q : Rat) : Int := max (floorLog2 (magnitude q) - 52) (-1074)

/-- The double nearest to `q`, if `q` is in the range of doubles. -/
def round (q : Rat) : Rat :=
  if q = 0 then 0 else
    let e := lastBit q
    roundEven (q / (2 : Rat) ^ e) * (2 : Rat) ^ e

/-- Whether a rounded magnitude is past the largest double. -/
def isInfinite (q : Rat) : Bool := (2 : Rat) ^ (1024 : Int) ≤ magnitude q

/-- The nearest double to a power of ten. -/
def powerOfTen (n : Nat) : Rat := round ((10 : Rat) ^ n)

/-- Reads `s · 10^e`, with `s` rounded first and one rounded product or quotient by the double of a
power of ten up to 308; a smaller value takes two quotients. There is none for an infinite value. -/
def ofScientific (s : Nat) (e : Int) : Option Rat :=
  let f := round s
  if 0 ≤ e then
    if e ≤ 308 then
      let p := round (f * powerOfTen e.toNat)
      if isInfinite p then none else some p
    else if s = 0 then some 0 else none
  else if -308 ≤ e then some (round (f / powerOfTen (-e).toNat))
  else if -616 ≤ e then some (round (round (f / powerOfTen 308) / powerOfTen (-308 - e).toNat))
  else some 0

end Binary64

end WindowKeeper.Numeric
