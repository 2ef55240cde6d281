/-!
# Routes

Three outlets take frames: the slow path, the peer and the fast path.  A
route names the outlets that receive a frame.
-/

namespace FrameRouter

/-- The places a frame can leave to. -/
inductive Outlet where
  | slow
  | other
  | fast
deriving DecidableEq, Repr

/-- The outlets, in reporting order. -/
def Outlet.all : List Outlet := [.slow, .other, .fast]

def Outlet.name : Outlet → String
  | .slow => "slow"
  | .other => "other"
  | .fast => "fast"

/-- Where a frame goes. -/
inductive Route where
  | slow
  | other
  /-- Slow path and peer, word by word together. -/
  | both
  | fast
  /-- Nowhere. -/
  | drop
deriving DecidableEq, Repr

namespace Route

/-- The routes, in counting order. -/
def all : List Route := [.slow, .other, .both, .fast, .drop]

def name : Route → String
  | .slow => "slow"
  | .other => "other"
  | .both => "both"
  | .fast => "fast"
  | .drop => "drop"

/-- The place in counting order. -/
def index : Route → Nat
  | .slow => 0
  | .other => 1
  | .both => 2
  | .fast => 3
  | .drop => 4

/-- Whether a frame of this route leaves through the outlet. -/
def reaches : Route → Outlet → Bool
  | .slow, .slow => true
  | .other, .other => true
  | .both, .slow => true
  | .both, .other => true
  | .fast, .fast => true
  | _, _ => false

end Route

end FrameRouter
