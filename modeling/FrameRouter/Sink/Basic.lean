import FrameRouter.Frame.Word

/-!
# Sinks

A sink takes a word stream under a ready/valid handshake: a word may be pushed
in a tick in which the sink is ready.
-/

namespace FrameRouter

/-- A destination for a word stream. -/
class Sink (S : Type) where
  /-- A word pushed now is accepted. -/
  ready : S → Bool
  /-- Take one word. -/
  push : S → Word → S
  /-- Let one tick pass. -/
  tick : S → S
  /-- No work of the sink's own is outstanding. -/
  isIdle : S → Bool

end FrameRouter
