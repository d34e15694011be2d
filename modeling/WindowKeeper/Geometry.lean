import WindowKeeper.Overflow

namespace WindowKeeper

@[ext]
structure Point where
  x : Int
  y : Int
  deriving DecidableEq, Repr, Inhabited

@[ext]
structure Size where
  w : Int
  h : Int
  deriving DecidableEq, Repr, Inhabited

/-- Distances from the edges of a frame to the area it decorates. -/
@[ext]
structure Margins where
  left : Int
  top : Int
  right : Int
  bottom : Int
  deriving DecidableEq, Repr, Inhabited

/-- A rectangle whose right and bottom edges lie outside it. -/
@[ext]
structure Rect where
  x : Int
  y : Int
  w : Int
  h : Int
  deriving DecidableEq, Repr, Inhabited

namespace Point

/-- The Manhattan distance, exact whatever the points are. -/
def distance (p q : Point) : Nat := (p.x - q.x).natAbs + (p.y - q.y).natAbs

end Point

namespace Margins

def none : Margins := ⟨0, 0, 0, 0⟩

end Margins

namespace Rect

def ofCornerSize (p : Point) (s : Size) : Rect := ⟨p.x, p.y, s.w, s.h⟩

def corner (r : Rect) : Point := ⟨r.x, r.y⟩

def size (r : Rect) : Size := ⟨r.w, r.h⟩

def right (r : Rect) : Except Overflow Int := plus r.x r.w

def bottom (r : Rect) : Except Overflow Int := plus r.y r.h

/-- The center, halves being rounded toward the middle of the number line. -/
def center (r : Rect) : Except Overflow Point := do
  return ⟨← plus r.x (r.w.tdiv 2), ← plus r.y (r.h.tdiv 2)⟩

def isEmpty (r : Rect) : Bool := r.w ≤ 0 || r.h ≤ 0

/-- What remains of a rectangle inside margins. -/
def inset (r : Rect) (m : Margins) : Except Overflow Rect := do
  let x ← plus r.x m.left
  let y ← plus r.y m.top
  let w ← minus (← minus r.w m.left) m.right
  let h ← minus (← minus r.h m.top) m.bottom
  return ⟨x, y, w, h⟩

def translate (r : Rect) (d : Point) : Except Overflow Rect := do
  return ⟨← plus r.x d.x, ← plus r.y d.y, r.w, r.h⟩

/-- Whether `s` lies inside `r`. Corners are compared first; edges only while the answer is open. -/
def contains (r s : Rect) : Except Overflow Bool := do
  if s.x < r.x then return false
  if s.y < r.y then return false
  if ¬ (← s.right) ≤ (← r.right) then return false
  return (← s.bottom) ≤ (← r.bottom)

/-- A rectangle of the given size in the middle of `r`, never starting before its corner. -/
def centered (r : Rect) (s : Size) : Except Overflow Rect := do
  let spareW ← minus r.w s.w
  let x ← plus r.x (max (spareW.tdiv 2) 0)
  let spareH ← minus r.h s.h
  let y ← plus r.y (max (spareH.tdiv 2) 0)
  return ⟨x, y, s.w, s.h⟩

/-- The margins that a frame `r` leaves around the area `s`. -/
def marginsAround (r s : Rect) : Except Overflow Margins := do
  let left ← minus s.x r.x
  let top ← minus s.y r.y
  let right ← minus (← r.right) (← s.right)
  let bottom ← minus (← r.bottom) (← s.bottom)
  return ⟨left, top, right, bottom⟩

end Rect

end WindowKeeper
