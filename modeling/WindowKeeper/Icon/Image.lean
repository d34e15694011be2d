namespace WindowKeeper

@[ext]
structure Pixel where
  r : UInt8
  g : UInt8
  b : UInt8
  a : UInt8
  deriving DecidableEq, Repr, Inhabited

@[ext]
structure Image where
  width : Nat
  height : Nat
  /-- Row by row from the top, each row from the left. -/
  pixels : Array Pixel
  deriving DecidableEq, Repr, Inhabited

namespace Image

def pixel (im : Image) (x y : Nat) : Pixel := im.pixels.getD (y * im.width + x) default

/-- The stored forms of a pixel. -/
inductive Color
  | rgba
  | rgb
  | grayAlpha
  | gray
  deriving DecidableEq, Repr

/-- Reads pixels of a stored form; those without opacity are opaque. -/
def readPixels : Color → List UInt8 → List Pixel
  | .rgba, r :: g :: b :: a :: rest => ⟨r, g, b, a⟩ :: readPixels .rgba rest
  | .rgb, r :: g :: b :: rest => ⟨r, g, b, 255⟩ :: readPixels .rgb rest
  | .grayAlpha, v :: a :: rest => ⟨v, v, v, a⟩ :: readPixels .grayAlpha rest
  | .gray, v :: rest => ⟨v, v, v, 255⟩ :: readPixels .gray rest
  | _, _ => []

/-- The bytes of the pixels. -/
def bytes (im : Image) : List UInt8 := im.pixels.toList.flatMap fun p => [p.r, p.g, p.b, p.a]

end Image

end WindowKeeper
