import FrameRouter.Header.Classification
import FrameRouter.Routing.Route

/-!
# Routing rules

The route of a frame is that of the first rule that matches.  Suppression and
broadcast stand above the fast path, so that a frame they concern never takes
it.
-/

namespace FrameRouter

structure Rule where
  name : String
  /-- When the rule applies. -/
  applies : Classification → ForwardPolicy → Bool
  /-- The route it gives. -/
  route : ForwardPolicy → Route

namespace Rule

/-- A suppressed control message stays on the slow path. -/
def controlSuppress : Rule where
  name := "control-suppress"
  applies := fun c _ => c.isSuppressed
  route := fun _ => .slow

/-- A broadcast frame goes to the slow path, and to the peer if allowed. -/
def broadcast : Rule where
  name := "broadcast"
  applies := fun c _ => c.isBroadcast
  route := fun policy => if policy.broadcast then .both else .slow

/-- A frame for another station goes to the peer if allowed. -/
def forwardNonLocal : Rule where
  name := "forward-non-local"
  applies := fun c policy => !c.isLocal && policy.nonLocal
  route := fun _ => .other

/-- A frame for another station is dropped otherwise. -/
def dropNonLocal : Rule where
  name := "drop-non-local"
  applies := fun c policy => !c.isLocal && !policy.nonLocal
  route := fun _ => .drop

/-- A marked datagram for a local service takes the fast path. -/
def fastPath : Rule where
  name := "fast-path"
  applies := fun c _ => c.isFastPath
  route := fun _ => .fast

/-- Everything else takes the slow path. -/
def fallback : Rule where
  name := "default"
  applies := fun _ _ => true
  route := fun _ => .slow

/-- The routing table, in order of precedence. -/
def table : List Rule :=
  [controlSuppress, broadcast, forwardNonLocal, dropNonLocal, fastPath, fallback]

/-- The first rule that applies; the last rule always does. -/
def select (c : Classification) (policy : ForwardPolicy) : Rule :=
  (table.find? fun rule => rule.applies c policy).getD fallback

end Rule

/-- The route of a frame with the given classification. -/
def Route.decide (c : Classification) (policy : ForwardPolicy) : Route :=
  (Rule.select c policy).route policy

end FrameRouter
