import FrameRouter.Header.Layout

/-!
# Capture ring

The header words of the frame in flight wait in a ring until its route is
known.  The ring has one slot more than the header window.
-/

namespace FrameRouter

/-- A ring of words with a fixed number of slots. -/
structure CaptureRing where
  slots : Vector Word (Header.windowWords + 1)
  /-- The slot of the oldest waiting word. -/
  head : Fin (Header.windowWords + 1)
  /-- Words waiting. -/
  size : Nat
  /-- Words stored since the last reset. -/
  captured : Nat
deriving DecidableEq, Repr

namespace CaptureRing

def slotCount : Nat := Header.windowWords + 1

def empty : CaptureRing := ⟨Vector.replicate (Header.windowWords + 1) Word.zero, 0, 0, 0⟩

instance : Inhabited CaptureRing := ⟨empty⟩

/-- The slot so many places behind the oldest word. -/
def slot (ring : CaptureRing) (offset : Nat) : Fin (Header.windowWords + 1) :=
  ring.head + Fin.ofNat (Header.windowWords + 1) offset

/-- The waiting words, oldest first. -/
def toList (ring : CaptureRing) : List Word :=
  (List.range ring.size).map fun offset => ring.slots[ring.slot offset]

/-- Store a word; a full ring refuses it and stays as it is. -/
def push (ring : CaptureRing) (word : Word) : Bool × CaptureRing :=
  if ring.size < slotCount then
    (true,
      { ring with
        slots := ring.slots.set (ring.slot ring.size) word
        size := ring.size + 1
        captured := ring.captured + 1 })
  else
    (false, ring)

def front? (ring : CaptureRing) : Option Word :=
  if ring.size = 0 then none else some ring.slots[ring.head]

def pop (ring : CaptureRing) : CaptureRing :=
  if ring.size = 0 then ring else { ring with head := ring.head + 1, size := ring.size - 1 }

/-- Make room for a new frame once every word has been taken. -/
def reset (ring : CaptureRing) : CaptureRing := { ring with head := 0, size := 0, captured := 0 }

end CaptureRing

end FrameRouter
