import FrameRouter.Address.Ipv4
import FrameRouter.Address.Mac

/-!
# Configuration

What the router knows about its own station and what it may forward.
-/

namespace FrameRouter

/-- Control messages of one type and code. -/
structure IcmpPattern where
  type : UInt8
  code : UInt8
deriving DecidableEq, Repr

/-- The pattern as it stands in a packet: the type above the code. -/
def IcmpPattern.typeCode (pattern : IcmpPattern) : UInt16 :=
  UInt16.ofNat (pattern.type.toNat * 256 + pattern.code.toNat)

/-- What may leave the station, sampled once for each frame. -/
structure ForwardPolicy where
  /-- Frames for other stations go to the peer. -/
  nonLocal : Bool
  /-- Broadcast frames are copied to the peer. -/
  broadcast : Bool
deriving DecidableEq, Repr

structure Config where
  mac : Mac
  ip : Ipv4
  /-- Ports of the fast path; zero leaves a place unused. -/
  servicePorts : UInt16 × UInt16
  forwardNonLocal : Bool
  forwardBroadcast : Bool
  /-- Control messages that must stay on the slow path. -/
  suppressed : Option IcmpPattern
deriving DecidableEq, Repr

namespace Config

/-- A locally administered address and nothing forwarded. -/
def default : Config where
  mac := Mac.ofBytes 2 0 0 0 0 1
  ip := Ipv4.ofBytes 0 0 0 0
  servicePorts := (0, 0)
  forwardNonLocal := false
  forwardBroadcast := false
  suppressed := none

instance : Inhabited Config := ⟨default⟩

def policy (config : Config) : ForwardPolicy :=
  ⟨config.forwardNonLocal, config.forwardBroadcast⟩

/-- Whether the port is a configured one; port zero never is. -/
def serves (config : Config) (port : UInt16) : Bool :=
  port != 0 && (config.servicePorts.1 == port || config.servicePorts.2 == port)

end Config

end FrameRouter
