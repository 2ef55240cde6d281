import FrameRouter.Frame.Word

/-!
# Frames

A frame is a list of words of which only the final one is terminal.  Ethernet
bytes enter a frame behind a pad of two zero bytes, which puts the network
header on a word boundary, and leave it without that pad.
-/

namespace FrameRouter

/-- Zero bytes in front of the Ethernet header. -/
def alignmentPad : Nat := 2

/-- The words of one frame, in stream order. -/
structure Frame where
  words : List Word
deriving DecidableEq, Repr

namespace Frame

def empty : Frame := ⟨[]⟩

instance : Inhabited Frame := ⟨empty⟩

/-- Move the terminal mark to the final word and fill every other word. -/
def markEnd : List Word → List Word
  | [] => []
  | [word] => [{ word with last := true }]
  | word :: next :: rest => { word with bytes := 4, last := false } :: markEnd (next :: rest)

/-- The frame made of the given words, whatever marks they carried. -/
def ofWords (words : List Word) : Frame := ⟨markEnd words⟩

/-- Pack bytes into words of four lanes; the final word may have fewer valid ones. -/
def packBytes (side : UInt8) : List UInt8 → List Word
  | [] => []
  | [a] => [⟨Word.pack a 0 0 0, side, 1, true⟩]
  | [a, b] => [⟨Word.pack a b 0 0, side, 2, true⟩]
  | [a, b, c] => [⟨Word.pack a b c 0, side, 3, true⟩]
  | [a, b, c, d] => [⟨Word.pack a b c d, side, 4, true⟩]
  | a :: b :: c :: d :: e :: rest =>
      ⟨Word.pack a b c d, side, 4, false⟩ :: packBytes side (e :: rest)

/-- The frame of an Ethernet packet; every word carries the same annotation. -/
def ofEthernet (bytes : List UInt8) (side : UInt8) : Frame :=
  ⟨packBytes side (List.replicate alignmentPad 0 ++ bytes)⟩

/-- The Ethernet packet held by a frame: its valid bytes behind the pad. -/
def toEthernet (frame : Frame) : List UInt8 :=
  (frame.words.flatMap Word.payload).drop alignmentPad

def length (frame : Frame) : Nat := frame.words.length

def isEmpty (frame : Frame) : Bool := frame.words.isEmpty

/-- Whether the final word, and no other, is terminal. -/
def terminalOnlyAtEnd : List Word → Bool
  | [] => false
  | [word] => word.last
  | word :: next :: rest => !word.last && terminalOnlyAtEnd (next :: rest)

/-- Whether exactly the final word carries the terminal mark. -/
def isWellFormed (frame : Frame) : Bool := terminalOnlyAtEnd frame.words

end Frame

end FrameRouter
