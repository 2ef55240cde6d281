/-!
# Numbers as digits

Numerals in any base up to thirty-six.  Reading takes either letter case, any
number of leading zeros and one plus sign, and stops at the first fault from
the left; writing uses lower-case letters and no leading zero.
-/

namespace FrameRouter.Digits

/-- The value of a digit of the given base. -/
def value? (base : Nat) (character : Char) : Option Nat :=
  let code := character.toNat
  let value :=
    if 48 ≤ code ∧ code ≤ 57 then some (code - 48)
    else if 65 ≤ code ∧ code ≤ 90 then some (code - 55)
    else if 97 ≤ code ∧ code ≤ 122 then some (code - 87)
    else none
  value.filter (· < base)

/-- Why a text is not a numeral. -/
inductive Fault where
  | empty
  | invalidDigit
  | tooLarge
deriving DecidableEq, Repr

def Fault.message : Fault → String
  | .empty => "cannot parse integer from empty string"
  | .invalidDigit => "invalid digit found in string"
  | .tooLarge => "number too large to fit in target type"

/-- Read digits behind a number already read, up to `limit`. -/
def readFrom (base limit : Nat) : Nat → List Char → Except Fault Nat
  | value, [] => .ok value
  | value, character :: rest =>
      match value? base character with
      | none => .error .invalidDigit
      | some digit =>
          if value * base + digit ≤ limit then
            readFrom base limit (value * base + digit) rest
          else
            .error .tooLarge

/-- Read a numeral of at most `limit`. -/
def read (base limit : Nat) : List Char → Except Fault Nat
  | [] => .error .empty
  | ['+'] => .error .invalidDigit
  | '+' :: rest => readFrom base limit 0 rest
  | text => readFrom base limit 0 text

/-- The digits of a number, most significant first. -/
def render (base value : Nat) : List Char := Nat.toDigits base value

/-- The digits of a number, with zeros in front up to the given width. -/
def renderPadded (base width value : Nat) : List Char :=
  let digits := render base value
  List.replicate (width - digits.length) '0' ++ digits

/-- Decimal text of a number. -/
def decimal (value : Nat) : String := String.ofList (render 10 value)

/-- Hexadecimal text of a number behind `0x`. -/
def hexadecimal (value : Nat) : String := String.ofList ('0' :: 'x' :: render 16 value)

/-- Hexadecimal text behind `0x` with at least two digits. -/
def hexadecimalByte (value : Nat) : String :=
  String.ofList ('0' :: 'x' :: renderPadded 16 2 value)

end FrameRouter.Digits
