import FrameRouter.Text.Digits
import FrameRouter.Text.Split

/-!
# Network addresses

A network address is one 32-bit number, written as four decimal bytes with
points between them.
-/

namespace FrameRouter

/-- A network address. -/
structure Ipv4 where
  bits : UInt32
deriving DecidableEq, Repr

namespace Ipv4

def ofBytes (a b c d : UInt8) : Ipv4 :=
  ⟨UInt32.ofNat (((a.toNat * 256 + b.toNat) * 256 + c.toNat) * 256 + d.toNat)⟩

/-- The four bytes in transmission order. -/
def bytes (address : Ipv4) : List UInt8 :=
  [(address.bits >>> 24).toUInt8, (address.bits >>> 16).toUInt8,
    (address.bits >>> 8).toUInt8, address.bits.toUInt8]

/-- One byte in decimal: at most three digits, no sign, no leading zero, at most 255. -/
def byte? (text : List Char) : Option UInt8 :=
  if text.length ≤ 3 ∧ text.head? ≠ some '+' ∧ (text.head? = some '0' → text.length = 1) then
    match Digits.read 10 255 text with
    | .ok value => some (UInt8.ofNat value)
    | .error _ => none
  else
    none

/-- Read four decimal bytes between points. -/
def parse? (text : String) : Option Ipv4 :=
  match (Split.parts '.' text.toList).mapM byte? with
  | some [a, b, c, d] => some (ofBytes a b c d)
  | _ => none

/-- Four decimal bytes between points. -/
def render (address : Ipv4) : String :=
  String.ofList
    ((address.bytes.map fun byte => Digits.render 10 byte.toNat).intersperse ['.']).flatten

end Ipv4

end FrameRouter
