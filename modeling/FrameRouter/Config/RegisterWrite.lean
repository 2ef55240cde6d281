import FrameRouter.Text.Blank
import FrameRouter.Text.Digits
import FrameRouter.Text.Quoted
import FrameRouter.Text.Split

/-!
# Register writes

A register write is given as an address and a value with an equals sign
between them.  Both are decimal, or hexadecimal behind `0x`, with blanks
around them.
-/

namespace FrameRouter

/-- A value for a register. -/
structure RegisterWrite where
  address : UInt8
  value : UInt32
deriving DecidableEq, Repr

namespace RegisterWrite

/-- Why a text is no register write. -/
inductive Fault where
  | noSeparator (text : String)
  | notNumber (text : String) (fault : Digits.Fault)
  | addressOutOfRange (address : Nat)
deriving DecidableEq, Repr

def Fault.message : Fault → String
  | .noSeparator text => "expected ADDR=VALUE, got " ++ Quoted.text text
  | .notNumber text fault => "invalid number " ++ Quoted.text text ++ ": " ++ fault.message
  | .addressOutOfRange address =>
      "register address " ++ Digits.hexadecimal address ++ " out of range"

/-- Read a number of at most 32 bits in the base that its beginning names. -/
def unsigned : List Char → Except Digits.Fault Nat
  | '0' :: 'x' :: digits | '0' :: 'X' :: digits => Digits.read 16 0xffffffff digits
  | digits => Digits.read 10 0xffffffff digits

/-- Read a number with blanks around it. -/
def number (text : List Char) : Except Fault Nat :=
  let trimmed := Blank.trim text
  (unsigned trimmed).mapError (Fault.notNumber (String.ofList trimmed))

def parse (text : String) : Except Fault RegisterWrite := do
  match Split.first? '=' text.toList with
  | none => throw (.noSeparator text)
  | some (left, right) =>
      let address ← number left
      if 0xff < address then
        throw (.addressOutOfRange address)
      let value ← number right
      return ⟨UInt8.ofNat address, UInt32.ofNat value⟩

def label (write : RegisterWrite) : String :=
  Digits.hexadecimalByte write.address.toNat ++ "=" ++ Digits.hexadecimal write.value.toNat

end RegisterWrite

end FrameRouter
