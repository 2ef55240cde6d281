import FrameRouter.Engine.Session

/-!
# Departures

A consumer that drains the queues of a session sees the frames that have left
through its outlets.
-/

namespace FrameRouter

/-- A frame as it left the router. -/
structure Departure where
  outlet : Outlet
  frame : Frame
deriving DecidableEq, Repr

/-- The frames that left through an outlet. -/
def Departure.through (outlet : Outlet) (departures : List Departure) : List Frame :=
  (departures.filter fun departure => departure.outlet = outlet).map Departure.frame

namespace Router

def drainOutlet (router : Router Queue) (outlet : Outlet) : List Departure × Router Queue :=
  let (frames, queue) := (router.outlets.sink outlet).drain
  (frames.map (Departure.mk outlet), router.setSink outlet queue)

/-- Drain the queues behind all outlets, in reporting order. -/
def drain (router : Router Queue) : List Departure × Router Queue :=
  let (slow, router) := router.drainOutlet .slow
  let (other, router) := router.drainOutlet .other
  let (fast, router) := router.drainOutlet .fast
  (slow ++ other ++ fast, router)

end Router

namespace Session

/-- The result of some steps between which the queues were drained. -/
structure Yield where
  outcome : Outcome Queue
  departures : List Departure

def Yield.drain (yield : Yield) : Yield :=
  let session := yield.outcome.session
  let (departures, router) := session.router.drain
  { outcome := { yield.outcome with session := { session with router := router } }
    departures := yield.departures ++ departures }

/-- The result behind one more step, in front of which the queues are drained when it is time. -/
def Yield.step (period : Nat) (yield : Yield) : Yield :=
  let yield := if yield.outcome.ticks % period = 0 then yield.drain else yield
  { yield with outcome := yield.outcome.step }

/-- Step until done, but at most so many times more. -/
def Yield.run (period : Nat) : Nat → Yield → Yield
  | 0, yield => yield
  | limit + 1, yield =>
      if yield.outcome.session.isDone then yield
      else run period limit (yield.step period)

/--
Step until done or out of ticks.  The queues are drained in front of every
tick whose number, counted from zero, is a multiple of the period, and once
more at the end.
-/
def runDrained (session : Session Queue) (period limit : Nat) : Yield :=
  (Yield.run period limit ⟨⟨session, 0, 0⟩, []⟩).drain

end Session

end FrameRouter
