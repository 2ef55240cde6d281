import FrameRouter.Engine.Departure

/-!
# Worker

A worker feeds a session from a channel of frames.  It keeps a few frames
ahead of the one in flight and ends once the sender is gone and every frame
has left.
-/

namespace FrameRouter

/-- A session fed from a channel. -/
structure Worker where
  name : String
  /-- Frames sent and not yet received. -/
  channel : List Frame
  /-- The sender can still send. -/
  connected : Bool
  /-- The worker knows that nothing more will come. -/
  disconnectSeen : Bool
  session : Session Queue
deriving DecidableEq, Repr

namespace Worker

/-- Frames taken from the channel ahead of time. -/
def prefetchLimit : Nat := 2

/-- A worker that has received nothing, with queues of the given depth. -/
def ofDepth (name : String) (config : Config) (depth : Nat) : Worker where
  name := name
  channel := []
  connected := true
  disconnectSeen := false
  session := .ofDepth config depth

/-- Put frames into the channel. -/
def send (worker : Worker) (frames : List Frame) : Worker :=
  { worker with channel := worker.channel ++ frames }

/-- The sender goes away. -/
def disconnect (worker : Worker) : Worker := { worker with connected := false }

/-- Whether the worker has nothing left to do. -/
def isFinished (worker : Worker) : Bool := worker.disconnectSeen && worker.session.isDone

/-- Take frames from a channel while fewer than the limit are pending. -/
def prefetchFrom (source : Source) : List Frame → Source × List Frame
  | [] => (source, [])
  | frame :: rest =>
      if source.pending < prefetchLimit then prefetchFrom (source.push frame) rest
      else (source, frame :: rest)

/-- Take frames ahead of time; an empty channel without a sender ends the reception. -/
def prefetch (worker : Worker) : Worker :=
  if worker.disconnectSeen then
    worker
  else
    let (source, channel) := prefetchFrom worker.session.source worker.channel
    { worker with
      channel := channel
      session := { worker.session with source := source }
      disconnectSeen :=
        channel.isEmpty && !worker.connected && source.pending < prefetchLimit }

/-- Take frames ahead of time and let one tick pass. -/
def work (worker : Worker) : Worker :=
  let worker := worker.prefetch
  { worker with session := worker.session.step.1 }

/-- Go once through the loop; a worker that is done waits for the next frame or the end. -/
def iterate (worker : Worker) : Worker :=
  if worker.session.isDone then
    match worker.channel with
    | frame :: rest => work { worker with channel := rest, session := worker.session.send [frame] }
    | [] => if worker.connected then worker else { worker with disconnectSeen := true }
  else
    worker.work

def drain (worker : Worker) : List Departure × Worker :=
  let (departures, router) := worker.session.router.drain
  (departures, { worker with session := { worker.session with router := router } })

def isRunning (worker : Worker) : Bool := !worker.isFinished

/--
Go through the loop until the worker is finished, and drain the queues each
time.  The second argument holds what has departed before.
-/
def runFrom : Nat → List Departure → Worker → List Departure × Worker
  | 0, before, worker => (before, worker)
  | limit + 1, before, worker =>
      if worker.isFinished then
        (before, worker)
      else
        let (departures, worker) := worker.iterate.drain
        runFrom limit (before ++ departures) worker

/-- Times through the loop in which every frame sent so far has certainly left. -/
def allowance (worker : Worker) : Nat := Session.allowances worker.channel + 2

/-- Run a fresh worker that drains its queues to its end. -/
def run (worker : Worker) : List Departure × Worker := runFrom worker.allowance [] worker

end Worker

end FrameRouter
