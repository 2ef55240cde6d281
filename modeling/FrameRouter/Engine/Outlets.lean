import FrameRouter.Engine.Statistics
import FrameRouter.Sink.Normalizer

/-!
# Outlets

The three sinks behind the outlets.  A word of a route that reaches two
outlets moves only when both can take it, so the two copies never drift apart.
-/

namespace FrameRouter

/-- The sinks of a router; the fast one sits behind the normalizer unless said otherwise. -/
structure Outlets (S : Type) (F : Type := Normalizer S) where
  slow : S
  other : S
  fast : F
deriving DecidableEq, Repr

namespace Outlets

variable {S F : Type}

def ofSinks (slow other fast : S) : Outlets S := ⟨slow, other, Normalizer.around fast⟩

def sink (outlets : Outlets S) : Outlet → S
  | .slow => outlets.slow
  | .other => outlets.other
  | .fast => outlets.fast.inner

def setSink (outlets : Outlets S) (sink : S) : Outlet → Outlets S
  | .slow => { outlets with slow := sink }
  | .other => { outlets with other := sink }
  | .fast => { outlets with fast.inner := sink }

/-- Counters completed by what the normalizer has counted itself. -/
def statistics (outlets : Outlets S) (counters : Statistics) : Statistics :=
  { counters with
    truncations := outlets.fast.truncations
    extensions := outlets.fast.extensions }

variable [Sink S] [Sink F]

/-- Whether every outlet of the route can take a word now. -/
def accepts (outlets : Outlets S F) : Route → Bool
  | .slow => Sink.ready outlets.slow
  | .other => Sink.ready outlets.other
  | .both => Sink.ready outlets.slow && Sink.ready outlets.other
  | .fast => Sink.ready outlets.fast
  | .drop => true

/-- Hand a word to every outlet of the route. -/
def deliver (outlets : Outlets S F) (word : Word) : Route → Outlets S F
  | .slow => { outlets with slow := Sink.push outlets.slow word }
  | .other => { outlets with other := Sink.push outlets.other word }
  | .both =>
      { outlets with
        slow := Sink.push outlets.slow word
        other := Sink.push outlets.other word }
  | .fast => { outlets with fast := Sink.push outlets.fast word }
  | .drop => outlets

def tick (outlets : Outlets S F) : Outlets S F :=
  ⟨Sink.tick outlets.slow, Sink.tick outlets.other, Sink.tick outlets.fast⟩

/-- Whether no sink has work of its own. -/
def isIdle (outlets : Outlets S F) : Bool :=
  Sink.isIdle outlets.slow && Sink.isIdle outlets.other && Sink.isIdle outlets.fast

end Outlets

end FrameRouter
