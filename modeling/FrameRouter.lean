import FrameRouter.Address.Ipv4
import FrameRouter.Address.Mac
import FrameRouter.CommandLine.Arguments
import FrameRouter.CommandLine.Directory
import FrameRouter.CommandLine.Program
import FrameRouter.Config.Basic
import FrameRouter.Config.Document
import FrameRouter.Config.Register
import FrameRouter.Config.RegisterWrite
import FrameRouter.Decimal.Binary64
import FrameRouter.Decimal.Shortest
import FrameRouter.Engine.CaptureRing
import FrameRouter.Engine.Departure
import FrameRouter.Engine.Outlets
import FrameRouter.Engine.Router
import FrameRouter.Engine.Session
import FrameRouter.Engine.Source
import FrameRouter.Engine.Statistics
import FrameRouter.Engine.Worker
import FrameRouter.Fault
import FrameRouter.Frame.Basic
import FrameRouter.Frame.Document
import FrameRouter.Frame.Reassembly
import FrameRouter.Frame.Word
import FrameRouter.Header.Classification
import FrameRouter.Header.Layout
import FrameRouter.Json.Failure
import FrameRouter.Json.Number
import FrameRouter.Json.Reader
import FrameRouter.Json.Record
import FrameRouter.Json.Scalar
import FrameRouter.Json.Sequence
import FrameRouter.Json.Skip
import FrameRouter.Json.Text
import FrameRouter.Json.Value
import FrameRouter.Main
import FrameRouter.Packet.Basic
import FrameRouter.Packet.Checksum
import FrameRouter.Proofs.Engine.CaptureRing
import FrameRouter.Proofs.Engine.Turn
import FrameRouter.Proofs.Sink.Observed
import FrameRouter.Proofs.Frame.Cutting
import FrameRouter.Replay
import FrameRouter.Routing.Route
import FrameRouter.Routing.Rule
import FrameRouter.Sink.Basic
import FrameRouter.Sink.Normalizer
import FrameRouter.Sink.Queue
import FrameRouter.Sink.Scripted
import FrameRouter.Text.Blank
import FrameRouter.Text.Column
import FrameRouter.Text.ControlSequence
import FrameRouter.Text.DefaultIgnorable
import FrameRouter.Text.Digits
import FrameRouter.Text.GraphemeExtend
import FrameRouter.Text.Hex
import FrameRouter.Text.Quoted
import FrameRouter.Text.Split
import FrameRouter.Text.Unprintable
import FrameRouter.Trace
import FrameRouter.Proofs.Engine.Flight
import FrameRouter.Proofs.Engine.Ledger
import FrameRouter.Proofs.Engine.Conservation
import FrameRouter.Proofs.Routing.Reference
import FrameRouter.Proofs.Engine.Deciding
import FrameRouter.Proofs.Frame.Lanes
import FrameRouter.Proofs.Frame.Packing
import FrameRouter.Proofs.Sink.Normalization
import FrameRouter.Proofs.Sink.NormalizedStream
import FrameRouter.Proofs.Engine.Feeding
import FrameRouter.Proofs.Frame.Sealed
import FrameRouter.Proofs.Sink.Consumer
import FrameRouter.Proofs.Engine.Delivery
import FrameRouter.Proofs.Engine.Refinement
import FrameRouter.Proofs.Sink.Feed
import FrameRouter.Proofs.Sink.Fitting
import FrameRouter.Proofs.Engine.FastPath
import FrameRouter.Proofs.Engine.Handshake
import FrameRouter.Proofs.Engine.JointDelivery
import FrameRouter.Proofs.Sink.Filling
import FrameRouter.Proofs.Engine.Work
import FrameRouter.Proofs.Engine.Workload
import FrameRouter.Proofs.Engine.Progress
import FrameRouter.Proofs.Engine.Quiescence
import FrameRouter.Proofs.Sink.Trimming
import FrameRouter.Proofs.Engine.Counting
import FrameRouter.Proofs.Engine.Core
import FrameRouter.Proofs.Engine.Lockstep
import FrameRouter.Proofs.Engine.Reception
import FrameRouter.Proofs.Engine.Replaying
import FrameRouter.Proofs.Engine.Service
import FrameRouter.Proofs.Engine.DepthIndependence
import FrameRouter.Proofs.Config.RegisterFile
import FrameRouter.Proofs.Sink.Exposure
import FrameRouter.Proofs.Engine.Pacing
import FrameRouter.Proofs.Engine.Spoofing
import FrameRouter.Proofs.Engine.Refusal
import FrameRouter.Proofs.Engine.Phases
import FrameRouter.Proofs.Engine.Constant
import FrameRouter.Proofs.Engine.Overreading
import FrameRouter.Proofs.Engine.Strides
import FrameRouter.Proofs.Engine.Agenda
import FrameRouter.Proofs.Engine.Punctuality
import FrameRouter.Proofs.Config.RegisterDump
import FrameRouter.Proofs.Frame.Unpacking
import FrameRouter.Proofs.Json.Numeral
import FrameRouter.Proofs.Json.Grammar
import FrameRouter.Proofs.Json.Texts
import FrameRouter.Proofs.Json.Numbers
import FrameRouter.Proofs.Json.Skipping
import FrameRouter.Proofs.Json.Meaning
import FrameRouter.Proofs.Json.Lists
import FrameRouter.Proofs.Json.Records
import FrameRouter.Proofs.Json.Members
import FrameRouter.Proofs.Json.Writing
import FrameRouter.Proofs.Text.Digits
import FrameRouter.Proofs.Address.Notation
import FrameRouter.Proofs.Frame.Representation
import FrameRouter.Proofs.Sink.Traffic
import FrameRouter.Proofs.Config.RoundTrip
import FrameRouter.Proofs.Config.Acceptance
import FrameRouter.Proofs.Text.Hex
import FrameRouter.Proofs.Trace.Loading
import FrameRouter.Proofs.Text.Numerals
import FrameRouter.Proofs.Address.Codec
import FrameRouter.Proofs.Frame.Offsets
import FrameRouter.Proofs.Engine.RingQueue
import FrameRouter.Proofs.Engine.Presentation
import FrameRouter.Proofs.Text.Trimming
import FrameRouter.Proofs.Config.WriteGrammar
