import FrameRouter.Config.Basic
import FrameRouter.Header.Layout

/-!
# Classification

The classification of a frame is built one header word at a time.  Each word
position settles its own flags, against the configuration of the moment; a
flag whose word never came stays false, and words behind the header window
change nothing.
-/

namespace FrameRouter

/-- What the header words of one frame have shown. -/
structure Classification where
  /-- The first two destination bytes are the local ones. -/
  macHigh : Bool
  /-- The last four destination bytes are the local ones. -/
  macLow : Bool
  /-- The first two destination bytes are all ones. -/
  broadcastHigh : Bool
  /-- The last four destination bytes are all ones. -/
  broadcastLow : Bool
  ipv4 : Bool
  udp : Bool
  icmp : Bool
  /-- The packet is for the local network address. -/
  ipMatch : Bool
  /-- The datagram is for a service port. -/
  portMatch : Bool
  /-- The control message has the suppressed type and code. -/
  icmpMatch : Bool
  /-- The first payload word is not zero. -/
  marker : Bool
  /-- Header words seen so far. -/
  wordsSeen : Nat
deriving DecidableEq, Repr

namespace Classification

/-- No word seen and no flag set. -/
def start : Classification where
  macHigh := false
  macLow := false
  broadcastHigh := false
  broadcastLow := false
  ipv4 := false
  udp := false
  icmp := false
  ipMatch := false
  portMatch := false
  icmpMatch := false
  marker := false
  wordsSeen := 0

instance : Inhabited Classification := ⟨start⟩

/-- The frame is for this station. -/
def isLocal (c : Classification) : Bool := c.macHigh && c.macLow

/-- The frame is for every station. -/
def isBroadcast (c : Classification) : Bool := c.broadcastHigh && c.broadcastLow

/-- The frame is a control message that must not be forwarded. -/
def isSuppressed (c : Classification) : Bool := c.ipv4 && c.icmp && c.icmpMatch

/-- The frame is a marked datagram for a local service. -/
def isFastPath (c : Classification) : Bool :=
  c.ipv4 && c.udp && c.ipMatch && c.portMatch && c.marker

/-- The header window is not complete. -/
def isShort (c : Classification) : Bool := c.wordsSeen < Header.windowWords

/-- The flags after the word at the given position. -/
def inspect (c : Classification) (config : Config) (word : Word) : Nat → Classification
  | 0 => { c with
      macHigh := word.low == config.mac.high
      broadcastHigh := word.low == Mac.broadcast.high }
  | 1 => { c with
      macLow := word.data == config.mac.low
      broadcastLow := word.data == Mac.broadcast.low }
  | 3 => { c with ipv4 := Header.ethertype word == Header.ipv4Ethertype }
  | 6 => { c with
      udp := Header.protocol word == Header.udpProtocol
      icmp := Header.protocol word == Header.icmpProtocol }
  | 8 => { c with ipMatch := word.data == config.ip.bits }
  | 9 => { c with
      portMatch := config.serves (Header.destinationPort word)
      icmpMatch := config.suppressed.any fun pattern =>
        pattern.typeCode == Header.icmpTypeCode word }
  | 11 => { c with marker := word.data != 0 }
  | _ => c

/-- The classification after one more word. -/
def observe (c : Classification) (config : Config) (word : Word) : Classification :=
  if c.wordsSeen < Header.windowWords then
    { c.inspect config word c.wordsSeen with wordsSeen := c.wordsSeen + 1 }
  else
    c

/-- The classification of a word list under one configuration. -/
def ofWords (config : Config) (words : List Word) : Classification :=
  words.foldl (fun c word => c.observe config word) start

end Classification

end FrameRouter
