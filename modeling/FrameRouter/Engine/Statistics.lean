import FrameRouter.Routing.Route

/-!
# Statistics

Counts of what a router has done.
-/

namespace FrameRouter

structure Statistics where
  slow : Nat
  other : Nat
  both : Nat
  fast : Nat
  dropped : Nat
  /-- Words accepted from the source. -/
  wordsIn : Nat
  /-- Frames that ended inside the header window. -/
  shortFrames : Nat
  /-- Fast frames cut at their declared end. -/
  truncations : Nat
  /-- Fast frames filled up to their declared end. -/
  extensions : Nat
  /-- Ticks in which a word had to wait for an outlet. -/
  stallTicks : Nat
deriving DecidableEq, Repr

/-- What a router counts. -/
inductive Event where
  | word
  | short
  | truncation
  | extension
  | stall
  /-- A frame was given this route. -/
  | routed (route : Route)
deriving DecidableEq, Repr

namespace Statistics

def zero : Statistics := ⟨0, 0, 0, 0, 0, 0, 0, 0, 0, 0⟩

instance : Inhabited Statistics := ⟨zero⟩

def count (s : Statistics) : Event → Statistics
  | .word => { s with wordsIn := s.wordsIn + 1 }
  | .short => { s with shortFrames := s.shortFrames + 1 }
  | .truncation => { s with truncations := s.truncations + 1 }
  | .extension => { s with extensions := s.extensions + 1 }
  | .stall => { s with stallTicks := s.stallTicks + 1 }
  | .routed .slow => { s with slow := s.slow + 1 }
  | .routed .other => { s with other := s.other + 1 }
  | .routed .both => { s with both := s.both + 1 }
  | .routed .fast => { s with fast := s.fast + 1 }
  | .routed .drop => { s with dropped := s.dropped + 1 }

/-- Frames that were given the route. -/
def routed (s : Statistics) : Route → Nat
  | .slow => s.slow
  | .other => s.other
  | .both => s.both
  | .fast => s.fast
  | .drop => s.dropped

/-- Frames that were given a route. -/
def frames (s : Statistics) : Nat := s.slow + s.other + s.both + s.fast + s.dropped

/-- The counters under their names, in reporting order. -/
def fields (s : Statistics) : List (String × Nat) :=
  [("slow", s.slow), ("other", s.other), ("both", s.both), ("fast", s.fast),
    ("dropped", s.dropped), ("words_in", s.wordsIn), ("short_frames", s.shortFrames),
    ("truncations", s.truncations), ("extensions", s.extensions),
    ("stall_ticks", s.stallTicks)]

end Statistics

end FrameRouter
