import FrameRouter.Config.Register
import FrameRouter.Engine.CaptureRing
import FrameRouter.Engine.Outlets
import FrameRouter.Routing.Rule

/-!
# Router

The router takes one frame at a time through capture, decision and
forwarding.  In every tick at most one word enters and at most one leaves:
header words are captured until the window is full or the frame ends, the
route is decided in a tick of its own, and then the captured words are
replayed before the rest of the frame passes through.  The tick that replays
the final word of a short frame already captures the first word of the next.
-/

namespace FrameRouter

/-- Where the router stands with the frame in flight. -/
inductive Phase where
  /-- There is no frame in flight. -/
  | idle
  /-- Header words are captured and classified. -/
  | capturing
  /-- The header is complete, or the frame has ended within it. -/
  | deciding
  /-- Words move to the outlets of the route. -/
  | forwarding (route : Route)
deriving DecidableEq, Repr

structure Router (S : Type) (F : Type := Normalizer S) where
  config : Config
  classification : Classification
  ring : CaptureRing
  outlets : Outlets S F
  phase : Phase
  /-- The terminal word of the frame has been captured. -/
  capturedLast : Bool
  /-- Words of the frame accepted so far. -/
  frameWords : Nat
  /-- Everything counted, except what the normalizer counts itself. -/
  counters : Statistics
deriving DecidableEq, Repr

namespace Router

variable {S F : Type}

/-- A router that has seen no word. -/
def ofOutlets (config : Config) (outlets : Outlets S F) : Router S F where
  config := config
  classification := .start
  ring := .empty
  outlets := outlets
  phase := .idle
  capturedLast := false
  frameWords := 0
  counters := .zero

/-- The counters, those of the normalizer included. -/
def statistics (router : Router S) : Statistics := router.outlets.statistics router.counters

def count (router : Router S F) (event : Event) : Router S F :=
  { router with counters := router.counters.count event }

/-- Write a register; a refused write changes nothing. -/
def write (router : Router S F) (address : UInt8) (value : UInt32) :
    Except Fault (Router S F) := do
  return { router with config := ← router.config.write address value }

def reconfigure (router : Router S F) (config : Config) : Router S F :=
  { router with config := config }

def setSink (router : Router S) (outlet : Outlet) (sink : S) : Router S :=
  { router with outlets := router.outlets.setSink sink outlet }

/-- Capture one header word; the window closes at its last word or at the end of the frame. -/
def capture (router : Router S F) (word : Word) : Router S F :=
  let ring := (router.ring.push word).2
  { router with
    ring := ring
    classification := router.classification.observe router.config word
    frameWords := router.frameWords + 1
    capturedLast := router.capturedLast || word.last
    phase :=
      if word.last || ring.captured == Header.windowWords then .deciding else .capturing
    counters := router.counters.count .word }

/-- Begin a frame with the offered word. -/
def start (router : Router S F) : Option Word → Router S F × Bool
  | none => (router, false)
  | some word =>
      (capture
        { router with
          ring := router.ring.reset
          classification := .start
          capturedLast := false
          frameWords := 0 }
        word, true)

/-- Give the frame its route, under the policy of the moment. -/
def decide (router : Router S F) : Router S F :=
  let route := Route.decide router.classification router.config.policy
  let counters :=
    if router.capturedLast && router.classification.isShort then router.counters.count .short
    else router.counters
  { router with
    counters := counters.count (.routed route)
    phase := .forwarding route }

variable [Sink S] [Sink F]

/-- Replay the oldest captured word; the terminal one makes room for the next frame. -/
def replay (router : Router S F) (route : Route) (word : Word) (input : Option Word) :
    Router S F × Bool :=
  if router.outlets.accepts route then
    let moved :=
      { router with ring := router.ring.pop, outlets := router.outlets.deliver word route }
    if word.last then start { moved with phase := .idle } input else (moved, false)
  else
    (router.count .stall, false)

/-- Let an offered word of the frame pass through. -/
def pass (router : Router S F) (route : Route) : Option Word → Router S F × Bool
  | none => (router, false)
  | some word =>
      if router.outlets.accepts route then
        ({ router with
          outlets := router.outlets.deliver word route
          frameWords := router.frameWords + 1
          phase := if word.last then .idle else router.phase
          counters := router.counters.count .word }, true)
      else
        (router.count .stall, false)

/-- Move one word towards the outlets of the route: captured words go first. -/
def forward (router : Router S F) (route : Route) (input : Option Word) : Router S F × Bool :=
  match router.ring.front? with
  | some word => router.replay route word input
  | none => router.pass route input

/-- Act on the offered word as the phase demands. -/
def act (router : Router S F) (input : Option Word) : Router S F × Bool :=
  match router.phase with
  | .idle => router.start input
  | .capturing =>
      match input with
      | some word => (router.capture word, true)
      | none => (router, false)
  | .deciding => (router.decide, false)
  | .forwarding route => router.forward route input

/--
Let one tick pass.  The sinks advance first; the second result says whether
the offered word was accepted.  A word that was not is offered again.
-/
def tick (router : Router S F) (input : Option Word) : Router S F × Bool :=
  act { router with outlets := router.outlets.tick } input

/-- Whether there is no frame in flight and no sink has work of its own. -/
def isIdle (router : Router S F) : Bool := router.phase == .idle && router.outlets.isIdle

end Router

end FrameRouter
