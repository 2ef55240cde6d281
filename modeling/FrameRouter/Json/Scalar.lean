import FrameRouter.Json.Number
import FrameRouter.Json.Text

/-!
# Typed values

Readers of numbers, truth values and texts.  A well-formed value of another
type is reported with what it is.
-/

namespace FrameRouter.Json

/-- What stands at the front of a text without leading blanks. -/
def found : List Char → Except Failure Found
  | 'n' :: rest => do
      let _ ← word "ull".toList rest
      return .null
  | 't' :: rest => do
      let _ ← word "rue".toList rest
      return .boolean true
  | 'f' :: rest => do
      let _ ← word "alse".toList rest
      return .boolean false
  | '\x22' :: rest => do
      return .text (← readText rest).1
  | '[' :: _ => .ok .sequence
  | '\x7b' :: _ => .ok .map
  | text =>
      if startsNumber text then do
        match (← readNumber text).1 with
        | .integer value => return .integer value
        | .real negative value => return .real negative value
      else
        .error .malformed

/-- Report the value at the front of a text as one of the wrong type. -/
def wrongType {α : Type} (expected : String) (text : List Char) : Except Failure α := do
  mismatch (.wrongType (← found text) expected)

/-- Read a natural number of at most `limit`. -/
def natural (limit : Nat) (expected : String) : Reader Nat := fun text =>
  match skipBlanks text with
  | [] => .error .endOfText
  | text =>
      if startsNumber text then do
        match ← readNumber text with
        | (.integer value, rest) =>
            if 0 ≤ value ∧ value ≤ limit then return (value.toNat, rest)
            else mismatch (.outOfRange value expected)
        | (.real negative value, _) => mismatch (.wrongType (.real negative value) expected)
      else
        wrongType expected text

def uint8 : Reader UInt8 := fun text => do
  let (value, rest) ← natural 0xff "u8" text
  return (UInt8.ofNat value, rest)

def uint16 : Reader UInt16 := fun text => do
  let (value, rest) ← natural 0xffff "u16" text
  return (UInt16.ofNat value, rest)

def uint32 : Reader UInt32 := fun text => do
  let (value, rest) ← natural 0xffffffff "u32" text
  return (UInt32.ofNat value, rest)

def boolean : Reader Bool := fun text =>
  match skipBlanks text with
  | [] => .error .endOfText
  | 't' :: rest => do return (true, ← word "rue".toList rest)
  | 'f' :: rest => do return (false, ← word "alse".toList rest)
  | other => wrongType "a boolean" other

/-- Read a text; `expected` names what the text should be. -/
def text (expected : String) : Reader String := fun text =>
  match skipBlanks text with
  | [] => .error .endOfText
  | '\x22' :: rest => readText rest
  | other => wrongType expected other

/-- Read null or a value. -/
def optional {α : Type} (read : Reader α) : Reader (Option α) := fun text =>
  match skipBlanks text with
  | 'n' :: rest => do return (none, ← word "ull".toList rest)
  | other => do
      let (value, rest) ← read other
      return (some value, rest)

end FrameRouter.Json
