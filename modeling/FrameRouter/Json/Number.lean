import FrameRouter.Json.Reader

/-!
# Numbers in a document

A number is an integer of at most 64 bits or a binary floating-point number.
Reading a number asks that it be in range; passing over one does not.
-/

namespace FrameRouter.Json

inductive Number where
  | integer (value : Int)
  | real (negative : Bool) (value : Binary64)
deriving DecidableEq, Repr

/-- The largest significand that is kept exactly. -/
def largestSignificand : Nat := Nat.pow 2 64 - 1

/-- The largest exponent that is told apart from an overflow. -/
def largestExponent : Nat := Nat.pow 2 31 - 1

/--
Append digits to a significand as long as it stays in range.  The results are
the significand, the number of digits appended and the text that is left.
-/
def appendDigits : Nat → Nat → List Char → Nat × Nat × List Char
  | value, count, [] => (value, count, [])
  | value, count, character :: rest =>
      if character.isDigit ∧ value * 10 + (character.toNat - 48) ≤ largestSignificand then
        appendDigits (value * 10 + (character.toNat - 48)) (count + 1) rest
      else
        (value, count, character :: rest)

/-- The text behind its leading digits. -/
def skipDigits (text : List Char) : List Char := text.dropWhile Char.isDigit

/-- The real number of a significand and a decimal exponent, if it is in range. -/
def realNumber (negative : Bool) (significand : Nat) (exponent : Int) (rest : List Char) :
    Except Failure (Number × List Char) :=
  (Binary64.ofDecimal? significand exponent).elim (.error .malformed) fun value =>
    .ok (.real negative value, rest)

/-- Read the digits of an exponent. -/
def exponentDigits (negative : Bool) (significand : Nat) (exponent : Int) (below : Bool)
    (text : List Char) : Except Failure (Number × List Char) :=
  match text with
  | [] => .error .endOfText
  | character :: _ =>
      if character.isDigit then
        let digits := text.takeWhile Char.isDigit
        let value := digits.foldl (fun value digit => value * 10 + (digit.toNat - 48)) 0
        if value ≤ largestExponent then
          realNumber negative significand
            (if below then exponent - value else exponent + value) (skipDigits text)
        else if significand ≠ 0 ∧ !below then
          .error .malformed
        else
          .ok (.real negative .zero, skipDigits text)
      else
        .error .malformed

/-- Read an exponent, behind its letter. -/
def exponentPart (negative : Bool) (significand : Nat) (exponent : Int) :
    List Char → Except Failure (Number × List Char)
  | '+' :: rest => exponentDigits negative significand exponent false rest
  | '-' :: rest => exponentDigits negative significand exponent true rest
  | text => exponentDigits negative significand exponent false text

/-- Whether the text goes on with an exponent. -/
def startsExponent : List Char → Bool
  | character :: _ => character = 'e' || character = 'E'
  | [] => false

/-- Finish a real number: an exponent may follow. -/
def finishReal (negative : Bool) (significand : Nat) (exponent : Int) (text : List Char) :
    Except Failure (Number × List Char) :=
  if startsExponent text then
    exponentPart negative significand exponent (text.drop 1)
  else
    realNumber negative significand exponent text

/-- Read the places behind the point; at least one digit must follow it. -/
def fractionPart (negative : Bool) (significand : Nat) (exponent : Int) (text : List Char) :
    Except Failure (Number × List Char) :=
  let (value, count, rest) := appendDigits significand 0 text
  if startsWithDigit rest then
    finishReal negative value (exponent - count) (skipDigits rest)
  else if count = 0 then
    .error (if rest.isEmpty then .endOfText else .malformed)
  else
    finishReal negative value (exponent - count) rest

/-- An integer; one below the 64-bit range and negative zero are real numbers. -/
def integerNumber (negative : Bool) (significand : Nat) (rest : List Char) :
    Except Failure (Number × List Char) :=
  if !negative then
    .ok (.integer significand, rest)
  else if significand = 0 ∨ Nat.pow 2 63 < significand then
    realNumber true significand 0 rest
  else
    .ok (.integer (-significand), rest)

/-- Read what follows the digits in front of the point. -/
def finishNumber (negative : Bool) (significand : Nat) (text : List Char) :
    Except Failure (Number × List Char) :=
  match text with
  | '.' :: rest => fractionPart negative significand 0 rest
  | _ =>
      if startsExponent text then
        finishReal negative significand 0 text
      else
        integerNumber negative significand text

/-- Read a number behind its sign. -/
def unsignedNumber (negative : Bool) (text : List Char) : Except Failure (Number × List Char) :=
  match text with
  | [] => .error .endOfText
  | '0' :: rest =>
      if startsWithDigit rest then .error .malformed else finishNumber negative 0 rest
  | character :: _ =>
      if character.isDigit then
        let (value, _, rest) := appendDigits 0 0 text
        if startsWithDigit rest then
          let extra := (rest.takeWhile Char.isDigit).length
          match skipDigits rest with
          | '.' :: places => fractionPart negative value extra places
          | after => finishReal negative value extra after
        else
          finishNumber negative value rest
      else
        .error .malformed

def readNumber : Reader Number
  | '-' :: rest => unsignedNumber true rest
  | text => unsignedNumber false text

/-- Whether the text begins like a number. -/
def startsNumber : List Char → Bool
  | character :: _ => character = '-' || character.isDigit
  | [] => false

/-- Pass over an exponent, if one follows. -/
def skipExponent (text : List Char) : Except Failure (List Char) :=
  if startsExponent text then
    let digits :=
      match text.drop 1 with
      | '+' :: rest => rest
      | '-' :: rest => rest
      | rest => rest
    if startsWithDigit digits then .ok (skipDigits digits) else .error .malformed
  else
    .ok text

/-- Pass over the places behind a point and an exponent, if they follow. -/
def skipFraction : List Char → Except Failure (List Char)
  | '.' :: rest =>
      if startsWithDigit rest then skipExponent (skipDigits rest) else .error .malformed
  | text => skipExponent text

/-- Pass over a number. -/
def skipNumber (text : List Char) : Except Failure (List Char) :=
  let unsigned :=
    match text with
    | '-' :: rest => rest
    | _ => text
  match unsigned with
  | '0' :: rest => if startsWithDigit rest then .error .malformed else skipFraction rest
  | rest => if startsWithDigit rest then skipFraction (skipDigits rest) else .error .malformed

end FrameRouter.Json
