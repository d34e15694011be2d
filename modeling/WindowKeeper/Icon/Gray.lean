import WindowKeeper.Icon.Image

namespace WindowKeeper

namespace Gray

/-- Weights in units of 2^-24. -/
def redWeight : Nat := 5016387

def greenWeight : Nat := 9848225

def blueWeight : Nat := 1912602

/-- The stretch by 255/155 in units of 2^-24. -/
def stretch : Nat := 27601226

def threshold : Nat := 100

def unit : Nat := 16777216

def weighted (p : Pixel) : Nat :=
  p.r.toNat * redWeight + p.g.toNat * greenWeight + p.b.toNat * blueWeight

def level (p : Pixel) : Nat := weighted p / unit

def stretched (level : Nat) : Nat := (level - threshold) * stretch

/-- The channel value that a gray level is shown by. -/
def shown (level : Nat) : Nat :=
  if level < threshold then 0 else stretched level / unit % 256

end Gray

/-- The pixel in black and gray, as opaque as before. -/
def Pixel.darkened (p : Pixel) : Pixel :=
  let v := UInt8.ofNat (Gray.shown (Gray.level p))
  ⟨v, v, v, p.a⟩

/-- The dark icon of support sessions. -/
def Image.darkened (im : Image) : Image := { im with pixels := im.pixels.map Pixel.darkened }

end WindowKeeper
