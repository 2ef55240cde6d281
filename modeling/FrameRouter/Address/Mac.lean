import FrameRouter.Text.Digits
import FrameRouter.Text.Split

/-!
# Link-layer addresses

An address of six bytes, kept in the two parts in which a frame stream carries
it: two bytes in the first word and four in the second.
-/

namespace FrameRouter

/-- A link-layer address. -/
structure Mac where
  /-- The first two bytes. -/
  high : UInt16
  /-- The last four bytes. -/
  low : UInt32
deriving DecidableEq, Repr

namespace Mac

def ofBytes (a b c d e f : UInt8) : Mac :=
  ⟨UInt16.ofNat (a.toNat * 256 + b.toNat),
    UInt32.ofNat (((c.toNat * 256 + d.toNat) * 256 + e.toNat) * 256 + f.toNat)⟩

/-- The six bytes in transmission order. -/
def bytes (mac : Mac) : List UInt8 :=
  [(mac.high >>> 8).toUInt8, mac.high.toUInt8, (mac.low >>> 24).toUInt8,
    (mac.low >>> 16).toUInt8, (mac.low >>> 8).toUInt8, mac.low.toUInt8]

def broadcast : Mac := ⟨0xffff, 0xffffffff⟩

/-- One byte in hexadecimal: any number of digits, at most 255. -/
def byte? (text : List Char) : Option UInt8 :=
  match Digits.read 16 255 text with
  | .ok value => some (UInt8.ofNat value)
  | .error _ => none

/-- Read six hexadecimal bytes between colons. -/
def parse? (text : String) : Option Mac :=
  match (Split.parts ':' text.toList).mapM byte? with
  | some [a, b, c, d, e, f] => some (ofBytes a b c d e f)
  | _ => none

/-- Six pairs of lower-case digits between colons. -/
def render (mac : Mac) : String :=
  String.ofList
    ((mac.bytes.map fun byte => Digits.renderPadded 16 2 byte.toNat).intersperse [':']).flatten

end Mac

end FrameRouter
