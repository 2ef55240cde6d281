import FrameRouter.Engine.Router
import FrameRouter.Engine.Source
import FrameRouter.Sink.Queue

/-!
# Sessions

A session is a router together with the source that feeds it.
-/

namespace FrameRouter

/-- A router and its source. -/
structure Session (S : Type) where
  router : Router S
  source : Source
deriving DecidableEq, Repr

namespace Session

variable {S : Type}

def ofSinks (config : Config) (slow other fast : S) : Session S :=
  ⟨.ofOutlets config (.ofSinks slow other fast), .empty⟩

/-- A session over three queues of one depth. -/
def ofDepth (config : Config) (depth : Nat) : Session Queue :=
  ofSinks config (.ofDepth depth) (.ofDepth depth) (.ofDepth depth)

/--
Ticks in which a frame has certainly left, if the outlets are cleared in every
tick: each of its words is taken, the words of the header window move once
more, the decision takes one tick, and then there are the words it may have to
be filled up with.
-/
def allowance (frame : Frame) : Nat :=
  frame.length + min frame.length Header.windowWords + 1 + Header.greatestExtent

/-- Ticks in which several frames have certainly left. -/
def allowances (frames : List Frame) : Nat :=
  frames.foldl (fun ticks frame => ticks + allowance frame) 0

def send (session : Session S) (frames : List Frame) : Session S :=
  { session with source := session.source.pushAll frames }

variable [Sink S]

/-- Offer the next word for one tick and move past it if it was accepted. -/
def step (session : Session S) : Session S × Bool :=
  match session.router.tick session.source.current with
  | (router, true) => (⟨router, session.source.advance⟩, true)
  | (router, false) => (⟨router, session.source⟩, false)

/-- Whether every frame has been taken and the router is idle. -/
def isDone (session : Session S) : Bool :=
  session.source.isEmpty && session.router.isIdle

/-- The result of some steps. -/
structure Outcome (S : Type) where
  session : Session S
  ticks : Nat
  accepted : Nat

def Outcome.step (outcome : Outcome S) : Outcome S :=
  let (session, accepted) := outcome.session.step
  ⟨session, outcome.ticks + 1, outcome.accepted + if accepted then 1 else 0⟩

/-- Step until done, but at most so many times more. -/
def Outcome.run : Nat → Outcome S → Outcome S
  | 0, outcome => outcome
  | limit + 1, outcome => if outcome.session.isDone then outcome else run limit outcome.step

def run (session : Session S) (limit : Nat) : Outcome S := Outcome.run limit ⟨session, 0, 0⟩

end Session

end FrameRouter
