import WindowKeeper.Placement.Record
import WindowKeeper.Numeric.Binary64

namespace WindowKeeper.Placement

open Numeric

/-- The quotient of two scales as a double. -/
def scaleFactor (current saved : Int) : Rat := Binary64.round ((current : Rat) / (saved : Rat))

def scaleBy (factor : Rat) (n : Int) : Int :=
  saturate32 (truncate (Binary64.round ((n : Rat) * factor)))

/-- A record without a scale is left as it is. -/
def rescale (p : Placement) (current : Int) : Placement :=
  if p.scale = 0 then p else
    let f := scaleFactor current p.scale
    { p with x := scaleBy f p.x, y := scaleBy f p.y, w := scaleBy f p.w, h := scaleBy f p.h }

end WindowKeeper.Placement
