import FrameRouter.Config.Basic
import FrameRouter.Fault

/-!
# Registers

The configuration as seven addressable registers.  A write replaces exactly
the fields of one register and is refused as a whole when the address is
unknown or the value exceeds what the register can hold.
-/

namespace FrameRouter

/-- The registers, in address order. -/
inductive Register where
  | macHigh
  | macLow
  | localIp
  | servicePort0
  | servicePort1
  | forwardControl
  | icmpNoForward
deriving DecidableEq, Repr

namespace Register

def all : List Register :=
  [.macHigh, .macLow, .localIp, .servicePort0, .servicePort1, .forwardControl, .icmpNoForward]

def address : Register → UInt8
  | .macHigh => 0
  | .macLow => 1
  | .localIp => 2
  | .servicePort0 => 3
  | .servicePort1 => 4
  | .forwardControl => 5
  | .icmpNoForward => 6

/-- The name in a register listing. -/
def name : Register → String
  | .macHigh => "MAC_HI"
  | .macLow => "MAC_LO"
  | .localIp => "LOCAL_IP"
  | .servicePort0 => "SERVICE_PORT0"
  | .servicePort1 => "SERVICE_PORT1"
  | .forwardControl => "FORWARD_CTRL"
  | .icmpNoForward => "ICMP_NO_FWD"

/-- The largest value the register accepts. -/
def maximum : Register → UInt32
  | .macHigh | .servicePort0 | .servicePort1 => 0xffff
  | .macLow | .localIp => 0xffffffff
  | .forwardControl => 3
  | .icmpNoForward => 0x1ffff

def at? (address : UInt8) : Option Register :=
  all.find? fun register => register.address = address

/-- The register at an address, or the fault of an unknown address. -/
def lookup (address : UInt8) : Except Fault Register :=
  match at? address with
  | some register => .ok register
  | none => .error (.unknownRegister address)

def label (register : Register) : String :=
  register.name ++ "(" ++ Digits.hexadecimalByte register.address.toNat ++ ")"

/-- Bit of the control message register that switches suppression on. -/
def suppressBit : UInt32 := 0x10000

end Register

namespace Config

def read (config : Config) : Register → UInt32
  | .macHigh => config.mac.high.toUInt32
  | .macLow => config.mac.low
  | .localIp => config.ip.bits
  | .servicePort0 => config.servicePorts.1.toUInt32
  | .servicePort1 => config.servicePorts.2.toUInt32
  | .forwardControl =>
      (if config.forwardNonLocal then 1 else 0) + (if config.forwardBroadcast then 2 else 0)
  | .icmpNoForward =>
      match config.suppressed with
      | some pattern => Register.suppressBit + pattern.typeCode.toUInt32
      | none => 0

def readAll (config : Config) : List UInt32 := Register.all.map config.read

/-- The configuration after an accepted write. -/
def apply (config : Config) (value : UInt32) : Register → Config
  | .macHigh => { config with mac.high := value.toUInt16 }
  | .macLow => { config with mac.low := value }
  | .localIp => { config with ip := ⟨value⟩ }
  | .servicePort0 => { config with servicePorts := (value.toUInt16, config.servicePorts.2) }
  | .servicePort1 => { config with servicePorts := (config.servicePorts.1, value.toUInt16) }
  | .forwardControl =>
      { config with
        forwardNonLocal := value.toNat % 2 = 1
        forwardBroadcast := value.toNat / 2 % 2 = 1 }
  | .icmpNoForward =>
      { config with
        suppressed :=
          if value.toNat / 0x10000 % 2 = 1 then
            some ⟨(value >>> 8).toUInt8, value.toUInt8⟩
          else
            none }

def write (config : Config) (address : UInt8) (value : UInt32) : Except Fault Config := do
  let register ← Register.lookup address
  if register.maximum < value then
    throw (.invalidRegisterValue address value)
  return config.apply value register

def readAt (config : Config) (address : UInt8) : Except Fault UInt32 := do
  return config.read (← Register.lookup address)

end Config

end FrameRouter
