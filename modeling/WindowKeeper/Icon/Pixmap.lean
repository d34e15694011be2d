import WindowKeeper.Icon.Image

namespace WindowKeeper

/-- An image as it appears at a size. -/
structure Pixmap where
  source : Image
  side : Nat
  deriving DecidableEq, Repr

namespace Pixmap

/-- The weight of place `i` out of `length` for place `x` out of `side`. -/
def weight (length side x i : Nat) : Nat :=
  2 * max length side - ((2 * i * side + side : Int) - ((2 * x + 1) * length : Nat)).natAbs

/-- The places that count for place `x`, with their weights. -/
def weights (length side x : Nat) : List (Nat × Nat) :=
  ((List.range length).map fun i => (i, weight length side x i)).filter fun p => p.2 ≠ 0

/-- The weighted mean of one channel, rounded to the nearest value. -/
def mean (terms : List (Nat × Nat)) : UInt8 :=
  let total := terms.foldr (fun t n => t.1 + n) 0
  let sum := terms.foldr (fun t n => t.1 * t.2 + n) 0
  UInt8.ofNat ((2 * sum + total) / (2 * total))

def pixel (p : Pixmap) (x y : Nat) : Pixel :=
  let rows := weights p.source.height p.side y
  let columns := weights p.source.width p.side x
  let terms := rows.flatMap fun r => columns.map fun c => (r.2 * c.2, p.source.pixel c.1 r.1)
  let channel (f : Pixel → UInt8) := mean (terms.map fun t => (t.1, (f t.2).toNat))
  ⟨channel Pixel.r, channel Pixel.g, channel Pixel.b, channel Pixel.a⟩

end Pixmap

end WindowKeeper
