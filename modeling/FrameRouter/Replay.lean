import FrameRouter.Engine.Departure
import FrameRouter.Json.Value
import FrameRouter.Text.Column
import FrameRouter.Text.Hex

/-!
# Replay

A replay sends the frames of a trace through a fresh router, with consumers
that take every word as soon as it has left, and reports what came out.
-/

namespace FrameRouter

/-- The report on a replay. -/
structure Report where
  ticks : Nat
  departures : List Departure
  statistics : Statistics
deriving DecidableEq, Repr

namespace Replay

/-- Send frames through a fresh router with queues of the given depth. -/
def run (config : Config) (depth : Nat) (frames : List Frame) : Report :=
  let session := (Session.ofDepth config depth).send frames
  let yield := session.runDrained 1 (Session.allowances frames)
  { ticks := yield.outcome.ticks
    departures := yield.departures
    statistics := yield.outcome.session.router.statistics }

end Replay

namespace Departure

def line (departure : Departure) : String :=
  let bytes := departure.frame.toEthernet
  Column.left 5 departure.outlet.name ++ " " ++ Column.right 5 (Digits.decimal bytes.length) ++
    "  " ++ Hex.encode bytes

def toValue (departure : Departure) : Json.Value :=
  let bytes := departure.frame.toEthernet
  .object [
    ("port", .text departure.outlet.name),
    ("len", .number bytes.length),
    ("frame", .text (Hex.encode bytes))]

end Departure

def Statistics.toValue (s : Statistics) : Json.Value :=
  .object (s.fields.map fun field => (field.1, .number field.2))

namespace Report

/-- The frames of each route, in words. -/
def routes (s : Statistics) : String :=
  Digits.decimal s.frames ++ " (slow " ++ Digits.decimal s.slow ++ ", other " ++
    Digits.decimal s.other ++ ", both " ++ Digits.decimal s.both ++ ", fast " ++
    Digits.decimal s.fast ++ ", dropped " ++ Digits.decimal s.dropped ++ ")"

/-- The counters under their headings. -/
def summary (report : Report) : List (String × String) :=
  let s := report.statistics
  [("ticks:", Digits.decimal report.ticks),
    ("words in:", Digits.decimal s.wordsIn),
    ("frames:", routes s),
    ("short:", Digits.decimal s.shortFrames),
    ("truncated:", Digits.decimal s.truncations),
    ("extended:", Digits.decimal s.extensions),
    ("stall ticks:", Digits.decimal s.stallTicks)]

/-- The lines of the report: every departure, a blank line and the counters. -/
def lines (report : Report) : List String :=
  report.departures.map Departure.line ++ [""] ++
    report.summary.map fun entry => Column.left 14 entry.1 ++ entry.2

def toValue (report : Report) : Json.Value :=
  .object [
    ("ticks", .number report.ticks),
    ("deliveries", .list (report.departures.map Departure.toValue)),
    ("stats", report.statistics.toValue)]

end Report

end FrameRouter
