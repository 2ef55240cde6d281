/-!
# Internet checksum

The checksum of a byte string is the complement of the sum of its 16-bit words
in ones' complement arithmetic, in which a carry out of the top comes back in
at the bottom.
-/

namespace FrameRouter.Checksum

/-- The sum of the 16-bit words of a byte string; a single last byte is the upper half of a word. -/
def wordSum : List UInt8 → Nat
  | [] => 0
  | [high] => high.toNat * 256
  | high :: low :: rest => high.toNat * 256 + low.toNat + wordSum rest

/-- A sum with its carries brought back in: only the sum zero gives zero. -/
def bringBack (sum : Nat) : Nat := if sum = 0 then 0 else (sum - 1) % 0xffff + 1

def ofBytes (bytes : List UInt8) : UInt16 := UInt16.ofNat (0xffff - bringBack (wordSum bytes))

end FrameRouter.Checksum
