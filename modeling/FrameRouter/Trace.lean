import FrameRouter.Fault
import FrameRouter.Frame.Basic
import FrameRouter.Json.Record
import FrameRouter.Json.Value
import FrameRouter.Text.Hex

/-!
# Traces

A trace is a list of Ethernet packets written as hexadecimal digits, each with
the annotation that its words carry.  Either every entry of a trace gives a
frame, or the first one that does not is reported.
-/

namespace FrameRouter

structure TraceEntry where
  /-- The packet as hexadecimal digits. -/
  digits : String
  /-- The annotation of every word. -/
  side : UInt8
deriving DecidableEq, Repr

namespace TraceEntry

structure Draft where
  digits : Option String
  side : Option UInt8

def format : Json.RecordFormat Draft TraceEntry where
  name := "TraceFrame"
  blank := ⟨none, none⟩
  fields := [
    .of "frame" Draft.digits (fun draft value => { draft with digits := some value })
      (Json.text "a string"),
    .of "side" Draft.side (fun draft value => { draft with side := some value }) Json.uint8]
  closed := false
  complete := fun draft => do
    let digits ← Json.required "frame" draft.digits
    return ⟨digits, draft.side.getD 0⟩

def ofDocument (text : String) : Except Json.Failure TraceEntry :=
  Json.document format.read text

def toValue (entry : TraceEntry) : Json.Value :=
  .object [("frame", .text entry.digits), ("side", .number entry.side.toNat)]

/-- Why an entry gives no frame. -/
inductive Refusal where
  | digits (fault : Hex.Fault)
  | empty
deriving DecidableEq, Repr

def Refusal.message : Refusal → String
  | .digits fault => fault.message
  | .empty => "empty frame"

/-- The frame of an entry; a packet has at least one byte. -/
def toFrame (entry : TraceEntry) : Except Refusal Frame := do
  let bytes ← (Hex.decode entry.digits).mapError Refusal.digits
  if bytes.isEmpty then throw .empty else return Frame.ofEthernet bytes entry.side

end TraceEntry

namespace Trace

/-- The frames of entries of which the first has the given number. -/
def framesFrom : Nat → List TraceEntry → Except Fault (List Frame)
  | _, [] => .ok []
  | number, entry :: rest =>
      match entry.toFrame with
      | .error refusal =>
          .error (.invalidTrace
            ("frame " ++ Digits.decimal number ++ ": " ++ refusal.message))
      | .ok frame => do return frame :: (← framesFrom (number + 1) rest)

/-- The frames of a trace; entries are counted from zero. -/
def frames (entries : List TraceEntry) : Except Fault (List Frame) := framesFrom 0 entries

def ofDocument (text : String) : Except Json.Failure (List TraceEntry) :=
  Json.document (Json.sequence TraceEntry.format.read) text

/-- The frames in the contents of a trace file. -/
def load (contents : Except FileFailure String) : Except Fault (List Frame) := do
  let text ← contents.mapError Fault.file
  frames (← (ofDocument text).mapError Fault.document)

end Trace

end FrameRouter
