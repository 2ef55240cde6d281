/-!
# Stream words

A frame travels as a stream of 32-bit words.  A word carries four byte lanes,
the most significant first, a side annotation, the number of its lanes that
hold data, and a mark on the last word of a frame.
-/

namespace FrameRouter

def laneCount : Nat := 4

/-- One element of a frame stream. -/
structure Word where
  /-- The four byte lanes, most significant first. -/
  data : UInt32
  /-- Out-of-band annotation, such as receive error flags. -/
  side : UInt8
  /-- Lanes that hold data, counted from the most significant one. -/
  bytes : UInt8
  /-- Marks the terminal word of a frame. -/
  last : Bool
deriving DecidableEq, Repr

namespace Word

/-- The word whose lanes and annotation are zero and which ends no frame. -/
def zero : Word := ⟨0, 0, 0, false⟩

instance : Inhabited Word := ⟨zero⟩

/-- A word with four valid lanes inside a frame. -/
def full (data : UInt32) : Word := ⟨data, 0, 4, false⟩

/-- The terminal word of a frame, holding `bytes` valid lanes. -/
def terminal (data : UInt32) (bytes : UInt8) : Word := ⟨data, 0, bytes, true⟩

/-- The two most significant lanes as one number. -/
def high (word : Word) : UInt16 := (word.data >>> 16).toUInt16

/-- The two least significant lanes as one number. -/
def low (word : Word) : UInt16 := word.data.toUInt16

/-- The four lanes in stream order. -/
def lanes (word : Word) : List UInt8 :=
  [(word.data >>> 24).toUInt8, (word.data >>> 16).toUInt8,
    (word.data >>> 8).toUInt8, word.data.toUInt8]

/-- Four lanes packed into the data field of a word. -/
def pack (first second third fourth : UInt8) : UInt32 :=
  UInt32.ofNat
    (((first.toNat * 256 + second.toNat) * 256 + third.toNat) * 256 + fourth.toNat)

/-- The lanes that hold data; inside a frame these are all four. -/
def payload (word : Word) : List UInt8 :=
  if word.last then word.lanes.take word.bytes.toNat else word.lanes

end Word

end FrameRouter
