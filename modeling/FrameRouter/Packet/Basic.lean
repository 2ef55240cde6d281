import FrameRouter.Address.Ipv4
import FrameRouter.Address.Mac
import FrameRouter.Header.Layout
import FrameRouter.Packet.Checksum

/-!
# Packets

Ethernet packets written byte by byte: datagrams, control messages and address
requests, with valid lengths and checksums.
-/

namespace FrameRouter.Packet

/-- The two bytes of a number, most significant first. -/
def bytes16 (value : UInt16) : List UInt8 := [(value >>> 8).toUInt8, value.toUInt8]

def arpEthertype : UInt16 := 0x0806

/-- Bytes of a network header without options. -/
def networkBytes : Nat := 20

def minimumBytes : Nat := 60

def hopLimit : UInt8 := 64

def sourcePort : UInt16 := 49152

/-- Put a link-layer header in front of a payload. -/
def link (destination source : Mac) (ethertype : UInt16) (payload : List UInt8) : List UInt8 :=
  destination.bytes ++ source.bytes ++ bytes16 ethertype ++ payload

/-- The network header with the given checksum; the packet must not be fragmented. -/
def networkHeader (source destination : Ipv4) (protocol : UInt8) (length : Nat)
    (checksum : UInt16) : List UInt8 :=
  [0x45, 0] ++ bytes16 (UInt16.ofNat (networkBytes + length)) ++ [0, 0, 0x40, 0] ++
    [hopLimit, protocol] ++ bytes16 checksum ++ source.bytes ++ destination.bytes

/-- Put a network header in front of a payload. -/
def network (source destination : Ipv4) (protocol : UInt8) (payload : List UInt8) : List UInt8 :=
  let header := networkHeader source destination protocol payload.length
  header (Checksum.ofBytes (header 0)) ++ payload

/-- A datagram with the given checksum. -/
def datagram (port : UInt16) (payload : List UInt8) (checksum : UInt16) : List UInt8 :=
  bytes16 sourcePort ++ bytes16 port ++ bytes16 (UInt16.ofNat (8 + payload.length)) ++
    bytes16 checksum ++ payload

/--
The checksum of a datagram, which covers the addresses too.  Zero would mean
that there is none, so it is sent as its other form.
-/
def datagramChecksum (source destination : Ipv4) (port : UInt16) (payload : List UInt8) : UInt16 :=
  let checksum := Checksum.ofBytes <|
    source.bytes ++ destination.bytes ++ [0, Header.udpProtocol] ++
      bytes16 (UInt16.ofNat (8 + payload.length)) ++ datagram port payload 0
  if checksum = 0 then 0xffff else checksum

/-- The parties of a packet. -/
structure Parties where
  destinationMac : Mac
  sourceMac : Mac
  source : Ipv4
  destination : Ipv4
deriving DecidableEq, Repr

def udp (parties : Parties) (port : UInt16) (payload : List UInt8) : List UInt8 :=
  link parties.destinationMac parties.sourceMac Header.ipv4Ethertype <|
    network parties.source parties.destination Header.udpProtocol <|
      datagram port payload
        (datagramChecksum parties.source parties.destination port payload)

/-- The text at the end of every control message. -/
def icmpData : List UInt8 := "dispatch".toUTF8.toList

/-- A control message with the given checksum. -/
def controlMessage (type code : UInt8) (checksum : UInt16) : List UInt8 :=
  [type, code] ++ bytes16 checksum ++ [0, 0, 0, 0] ++ icmpData

def icmp (parties : Parties) (type code : UInt8) : List UInt8 :=
  link parties.destinationMac parties.sourceMac Header.ipv4Ethertype <|
    network parties.source parties.destination Header.icmpProtocol <|
      controlMessage type code (Checksum.ofBytes (controlMessage type code 0))

/-- A broadcast Ethernet packet that asks for the station with a network address. -/
def arpRequest (sender : Mac) (source target : Ipv4) : List UInt8 :=
  link Mac.broadcast sender arpEthertype <|
    bytes16 1 ++ bytes16 Header.ipv4Ethertype ++ [6, 4] ++ bytes16 1 ++
      sender.bytes ++ source.bytes ++ List.replicate 6 0 ++ target.bytes

/-- Fill a packet up to the least size with zero bytes. -/
def padToMinimum (packet : List UInt8) : List UInt8 :=
  packet ++ List.replicate (minimumBytes - packet.length) 0

end FrameRouter.Packet
