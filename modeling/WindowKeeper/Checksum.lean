namespace WindowKeeper.Checksum

/-- One bit of polynomial division. -/
def divideBit (c : UInt32) : UInt32 :=
  if c &&& 1 = 1 then (c >>> 1) ^^^ 0xEDB88320 else c >>> 1

def divideBits : Nat → UInt32 → UInt32
  | 0, c => c
  | n + 1, c => divideBits n (divideBit c)

/-- Takes one byte into the register. -/
def absorb (c : UInt32) (b : UInt8) : UInt32 := divideBits 8 (c ^^^ b.toUInt32)

/-- CRC-32 with the reflected polynomial `0xEDB88320`. -/
def ofBytes (bs : List UInt8) : UInt32 := ~~~(bs.foldl absorb 0xFFFFFFFF)

/-- The check value of the algorithm. -/
example : ofBytes [49, 50, 51, 52, 53, 54, 55, 56, 57] = 0xCBF43926 := by decide +kernel

/-- The checksum of the UTF-8 encoding of a name. -/
def ofName (s : String) : UInt32 := ofBytes s.toUTF8.data.toList

end WindowKeeper.Checksum
