import WindowKeeper.Numeric.Binary64

namespace WindowKeeper.Numeric

/-- The largest `k` with `10 ^ k ≤ q`, for positive `q`. -/
def floorLog10 (q : Rat) : Int :=
  if 1 ≤ q then ((Nat.toDigits 10 q.floor.toNat).length : Int) - 1
  else
    let t : Int := (Nat.toDigits 10 (1 / q).floor.toNat).length
    if q = (10 : Rat) ^ (1 - t) then 1 - t else -t

namespace Shortest

/-- The reals that round to the double `v`, as bounds and whether the bounds belong to them. -/
structure Interval where
  low : Rat
  high : Rat
  closed : Bool

def Interval.around (v : Rat) : Interval :=
  let e := Binary64.lastBit v
  let step := (2 : Rat) ^ e
  let m := v / step
  let below := if m = 4503599627370496 ∧ -1074 < e then step / 4 else step / 2
  ⟨v - below, v + step / 2, m.floor % 2 = 0⟩

def Interval.has (i : Interval) (q : Rat) : Bool :=
  if i.closed then i.low ≤ q && q ≤ i.high else i.low < q && q < i.high

/-- The better of the two neighbours of `v` among the multiples of `10 ^ g`, if one reads back. -/
def onGrid (i : Interval) (v : Rat) (g : Int) : Option Int :=
  let unit := (10 : Rat) ^ g
  let below := (v / unit).floor
  let above := below + 1
  match i.has (below * unit), i.has (above * unit) with
  | true, true =>
    let d := v / unit - below
    if d < 1 / 2 then some below
    else if 1 / 2 < d then some above
    else if below % 2 = 0 then some below else some above
  | true, false => some below
  | false, true => some above
  | false, false => none

/-- Tries the grid `10 ^ g` and then up to `n` finer ones. -/
def search (i : Interval) (v : Rat) : Nat → Int → Int × Int
  | 0, g => ((onGrid i v g).getD (v / (10 : Rat) ^ g).floor, g)
  | n + 1, g =>
    match onGrid i v g with
    | some c => (c, g)
    | none => search i v n (g - 1)

end Shortest

/-- Drops final zeros, counting them into the exponent. -/
def trimZeros : List Char → Int → List Char × Int
  | '0' :: ds, e => trimZeros ds (e + 1)
  | ds, e => (ds, e)

/-- The digits of a positive double and the decimal exponent of the last of them. -/
def shortestDigits (v : Rat) : List Char × Int :=
  let (c, g) := Shortest.search (.around v) v 17 (floorLog10 v)
  let (ds, e) := trimZeros (Nat.toDigits 10 c.toNat).reverse g
  (ds.reverse, e)

/-- How the text of a double places its point. -/
structure Layout where
  /-- The least and the largest decimal exponent written without an exponent. -/
  least : Int
  largest : Int
  plusSign : Bool

def Layout.write (l : Layout) (ds : List Char) (e : Int) : List Char :=
  let lead := e + ds.length - 1
  if lead < l.least ∨ l.largest < lead then
    let fraction := if ds.length ≤ 1 then [] else '.' :: ds.drop 1
    let sign := if lead < 0 then ['-'] else if l.plusSign then ['+'] else []
    ds.take 1 ++ fraction ++ 'e' :: sign ++ Nat.toDigits 10 lead.natAbs
  else if 0 ≤ e then ds ++ List.replicate e.toNat '0' ++ ['.', '0']
  else if 0 ≤ lead then ds.take (lead.toNat + 1) ++ '.' :: ds.drop (lead.toNat + 1)
  else '0' :: '.' :: List.replicate (-lead - 1).toNat '0' ++ ds

/-- Numbers from 0.00001 up to below 10^16 have no exponent, and a whole number keeps `.0`. -/
def Layout.plain : Layout := ⟨-5, 15, true⟩

/-- The text of the double with this sign and magnitude. -/
def writeReal (negative : Bool) (v : Rat) : String :=
  let body := if v = 0 then ['0', '.', '0'] else
    let (ds, e) := shortestDigits v
    Layout.plain.write ds e
  String.ofList (if negative then '-' :: body else body)

end WindowKeeper.Numeric
