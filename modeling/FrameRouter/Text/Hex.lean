import FrameRouter.Text.Digits
import FrameRouter.Text.Quoted

/-!
# Bytes as hexadecimal digits

Bytes are written as two lower-case digits each, without separators.  Reading
takes either case and passes over blanks and colons wherever they stand, also
between the two digits of one byte.
-/

namespace FrameRouter.Hex

def digitOf (value : Nat) : Char := Nat.digitChar value

/-- The two digits of a byte. -/
def encodeByte (byte : UInt8) : List Char :=
  [digitOf (byte.toNat / 16), digitOf (byte.toNat % 16)]

def encode (bytes : List UInt8) : String := String.ofList (bytes.flatMap encodeByte)

/-- Why a text holds no byte string. -/
inductive Fault where
  | oddCount
  /-- The first byte of the text that is no digit. -/
  | notDigit (byte : UInt8)
deriving DecidableEq, Repr

/-- The wording of a fault; the byte is shown as the character of its number. -/
def Fault.message : Fault → String
  | .oddCount => "odd number of hex digits"
  | .notDigit byte =>
      "invalid hex digit " ++ Quoted.between '\x27' [Char.ofNat byte.toNat]

/-- Bytes that may stand anywhere between digits: tab, line feed, form feed, carriage return,
space and colon. -/
def isSeparator (byte : UInt8) : Bool :=
  byte = 9 || byte = 10 || byte = 12 || byte = 13 || byte = 32 || byte = 58

def digitValue (byte : UInt8) : Except Fault UInt8 :=
  match Digits.value? 16 (Char.ofNat byte.toNat) with
  | some value => .ok (UInt8.ofNat value)
  | none => .error (.notDigit byte)

/-- Join the halves of each byte. -/
def joinPairs : List UInt8 → List UInt8
  | high :: low :: rest => (high * 16 + low) :: joinPairs rest
  | _ => []

/-- The bytes of the text that are not separators. -/
def significant (text : String) : List UInt8 :=
  (text.toList.flatMap String.utf8EncodeChar).filter (!isSeparator ·)

/-- The byte string a text spells. -/
def decode (text : String) : Except Fault (List UInt8) := do
  let digits := significant text
  if digits.length % 2 = 1 then
    throw .oddCount
  let values ← digits.mapM digitValue
  return joinPairs values

end FrameRouter.Hex
