import FrameRouter.Frame.Reassembly
import FrameRouter.Sink.Basic

/-!
# Scripted sinks

A scripted sink is ready by a timetable and keeps a record of every word it
receives together with the tick of arrival.
-/

namespace FrameRouter

/-- When a scripted sink is ready. -/
inductive Schedule where
  | always
  | never
  /-- From the given tick on. -/
  | since (tick : Nat)
  /-- By the entries of a list, over and over; never when the list is empty. -/
  | cycle (pattern : List Bool)
deriving DecidableEq, Repr

/-- Whether the timetable says ready in the given tick. -/
def Schedule.readyAt : Schedule → Nat → Bool
  | .always, _ => true
  | .never, _ => false
  | .since start, tick => start ≤ tick
  | .cycle pattern, tick => pattern.getD (tick % pattern.length) false

/-- A sink with a timetable and a record. -/
structure ScriptedSink where
  schedule : Schedule
  /-- Ticks passed so far. -/
  now : Nat
  /-- Every word received, with the tick of arrival, oldest first. -/
  record : Array (Nat × Word)
deriving DecidableEq, Repr

namespace ScriptedSink

/-- A sink that has received nothing. -/
def ofSchedule (schedule : Schedule) : ScriptedSink := ⟨schedule, 0, #[]⟩

/-- Follow another timetable; the count of ticks goes on. -/
def reschedule (sink : ScriptedSink) (schedule : Schedule) : ScriptedSink :=
  { sink with schedule := schedule }

/-- The words received, oldest first. -/
def words (sink : ScriptedSink) : List Word := sink.record.toList.map Prod.snd

def frames (sink : ScriptedSink) : List Frame := Frame.ofStream sink.words

instance : Sink ScriptedSink where
  ready := fun sink => sink.schedule.readyAt sink.now
  push := fun sink word => { sink with record := sink.record.push (sink.now, word) }
  tick := fun sink => { sink with now := sink.now + 1 }
  isIdle := fun _ => true

end ScriptedSink

end FrameRouter
