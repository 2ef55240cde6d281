import FrameRouter.Frame.Word

/-!
# Header layout

Behind the alignment pad, the Ethernet, network and transport headers fill the
first twelve words of a frame.

| word | holds                                       |
|------|---------------------------------------------|
| 0    | pad, destination address (first two bytes)  |
| 1    | destination address (last four bytes)       |
| 2    | source address (first four bytes)           |
| 3    | source address (last two bytes), ethertype  |
| 4    | version and service, total length           |
| 5    | identification, fragmentation               |
| 6    | time to live, protocol, header checksum     |
| 7    | source network address                      |
| 8    | destination network address                 |
| 9    | source port, destination port (control messages: type, code, checksum) |
| 10   | datagram length, checksum                   |
| 11   | first four payload bytes                    |
-/

namespace FrameRouter.Header

def windowWords : Nat := 12

def linkBytes : Nat := 14

def ipv4Ethertype : UInt16 := 0x0800

def udpProtocol : UInt8 := 17

def icmpProtocol : UInt8 := 1

/-- The ethertype, in word 3. -/
def ethertype (word : Word) : UInt16 := word.low

/-- The total length of the network packet, in word 4. -/
def totalLength (word : Word) : UInt16 := word.low

/-- The protocol number, in word 6. -/
def protocol (word : Word) : UInt8 := (word.data >>> 16).toUInt8

/-- The destination port, in word 9. -/
def destinationPort (word : Word) : UInt16 := word.low

/-- Type and code of a control message, in word 9. -/
def icmpTypeCode (word : Word) : UInt16 := word.high

/-- How far a frame reaches: its word count and the valid lanes of its final word. -/
structure Extent where
  words : Nat
  tail : UInt8
deriving DecidableEq, Repr

/-- The extent of a frame whose network packet has the given total length. -/
def Extent.ofTotalLength (totalLength : UInt16) : Extent :=
  let bytes := 2 + linkBytes + totalLength.toNat
  ⟨(bytes + 3) / 4, if bytes % 4 = 0 then 4 else UInt8.ofNat (bytes % 4)⟩

/-- The greatest number of words a network packet can declare. -/
def greatestExtent : Nat := (Extent.ofTotalLength 0xffff).words

end FrameRouter.Header
