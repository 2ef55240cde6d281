import FrameRouter.Config.Basic
import FrameRouter.Fault
import FrameRouter.Json.Record
import FrameRouter.Json.Value

/-!
# Configuration documents

A configuration is kept in a document with one field for each of its parts.
The addresses have to be given; everything else may be left out.  A field that
is not known is a mistake.
-/

namespace FrameRouter

def Mac.reader : Json.Reader Mac := fun input => do
  let (text, rest) ← Json.text "a string" input
  match Mac.parse? text with
  | some mac => return (mac, rest)
  | none => Json.mismatch (.refused ("invalid MAC address: " ++ text))

def Ipv4.reader : Json.Reader Ipv4 := fun input => do
  let (text, rest) ← Json.text "IPv4 address" input
  match Ipv4.parse? text with
  | some address => return (address, rest)
  | none => Json.mismatch (.refused "invalid IPv4 address syntax")

namespace IcmpPattern

/-- The fields of a pattern read so far. -/
structure Draft where
  type : Option UInt8
  code : Option UInt8

/-- How a pattern is written in a document. -/
def format : Json.RecordFormat Draft IcmpPattern where
  name := "IcmpPattern"
  blank := ⟨none, none⟩
  fields := [
    .of "type" Draft.type (fun draft value => { draft with type := some value }) Json.uint8,
    .of "code" Draft.code (fun draft value => { draft with code := some value }) Json.uint8]
  closed := false
  complete := fun draft => do
    let type ← Json.required "type" draft.type
    let code ← Json.required "code" draft.code
    return ⟨type, code⟩

def toValue (pattern : IcmpPattern) : Json.Value :=
  .object [("type", .number pattern.type.toNat), ("code", .number pattern.code.toNat)]

end IcmpPattern

namespace Config

structure Draft where
  mac : Option Mac
  ip : Option Ipv4
  servicePorts : Option (UInt16 × UInt16)
  forwardNonLocal : Option Bool
  forwardBroadcast : Option Bool
  suppressed : Option (Option IcmpPattern)

def format : Json.RecordFormat Draft Config where
  name := "DispatchConfig"
  blank := ⟨none, none, none, none, none, none⟩
  fields := [
    .of "local_mac" Draft.mac (fun draft value => { draft with mac := some value }) Mac.reader,
    .of "local_ip" Draft.ip (fun draft value => { draft with ip := some value }) Ipv4.reader,
    .of "service_ports" Draft.servicePorts
      (fun draft value => { draft with servicePorts := some value }) (Json.pair Json.uint16),
    .of "forward_non_local" Draft.forwardNonLocal
      (fun draft value => { draft with forwardNonLocal := some value }) Json.boolean,
    .of "forward_broadcast" Draft.forwardBroadcast
      (fun draft value => { draft with forwardBroadcast := some value }) Json.boolean,
    .of "icmp_suppress" Draft.suppressed
      (fun draft value => { draft with suppressed := some value })
      (Json.optional IcmpPattern.format.read)]
  closed := true
  complete := fun draft => do
    let mac ← Json.required "local_mac" draft.mac
    let ip ← Json.required "local_ip" draft.ip
    return {
      mac := mac
      ip := ip
      servicePorts := draft.servicePorts.getD (0, 0)
      forwardNonLocal := draft.forwardNonLocal.getD false
      forwardBroadcast := draft.forwardBroadcast.getD false
      suppressed := draft.suppressed.getD none }

def ofDocument (text : String) : Except Json.Failure Config := Json.document format.read text

/-- The configuration in the contents of a file. -/
def load (contents : Except FileFailure String) : Except Fault Config := do
  let text ← contents.mapError Fault.file
  (ofDocument text).mapError Fault.document

def toValue (config : Config) : Json.Value :=
  .object [
    ("local_mac", .text config.mac.render),
    ("local_ip", .text config.ip.render),
    ("service_ports",
      .list [.number config.servicePorts.1.toNat, .number config.servicePorts.2.toNat]),
    ("forward_non_local", .boolean config.forwardNonLocal),
    ("forward_broadcast", .boolean config.forwardBroadcast),
    ("icmp_suppress",
      match config.suppressed with
      | some pattern => pattern.toValue
      | none => .null)]

end Config

end FrameRouter
