import FrameRouter.Decimal.Shortest
import FrameRouter.Text.Quoted

/-!
# Failures of reading a document

A document is read from left to right and the first failure counts.  Either
the text is no JSON, or it ends too early, or it says something that does not
fit what was asked for.
-/

namespace FrameRouter.Json

/-- What stands in a document where something else was expected. -/
inductive Found where
  | null
  | boolean (value : Bool)
  | integer (value : Int)
  | real (negative : Bool) (value : Binary64)
  | text (content : String)
  | sequence
  | map
deriving DecidableEq, Repr

/--
Numbers in messages are positional up to sixteen digits in front of the point
and five places behind it.
-/
def messageLayout : DecimalLayout := ⟨-5, 15, true⟩

def Found.describe : Found → String
  | .null => "null"
  | .boolean value => "boolean \x60" ++ (if value then "true" else "false") ++ "\x60"
  | .integer value =>
      "integer \x60" ++ (if value < 0 then "-" else "") ++ Digits.decimal value.natAbs ++ "\x60"
  | .real negative value =>
      "floating point \x60" ++ (if negative then "-" else "") ++
        String.ofList (messageLayout.render value.shortest) ++ "\x60"
  | .text content => "string " ++ Quoted.text content
  | .sequence => "sequence"
  | .map => "map"

/-- Why a document does not describe what was asked for. -/
inductive Mismatch where
  | wrongType (found : Found) (expected : String)
  | outOfRange (value : Int) (expected : String)
  | wrongLength (length : Nat) (expected : String)
  | missingField (key : String)
  | duplicateField (key : String)
  | unknownField (key : String) (known : List String)
  /-- A text that its own grammar refuses. -/
  | refused (reason : String)
deriving DecidableEq, Repr

/-- Text between grave accents. -/
def ticked (text : String) : String := "\x60" ++ text ++ "\x60"

/-- Drop a decimal number of at most 64 bits from the end of a reversed text. -/
def dropNumber? (text : List Char) : Option (List Char) :=
  let digits := text.takeWhile Char.isDigit
  match Digits.read 10 (Nat.pow 2 64 - 1) digits.reverse with
  | .ok _ => some (text.drop digits.length)
  | .error _ => none

/-- Drop a word from the end of a reversed text. -/
def dropWord? (word : String) (text : List Char) : Option (List Char) :=
  let reversed := word.toList.reverse
  if reversed.isPrefixOf text then some (text.drop reversed.length) else none

/-- The text without a position at its end: a refusal says where it arose only once. -/
def withoutPosition (text : String) : String :=
  let shortened := do
    let text ← dropNumber? text.toList.reverse
    let text ← dropWord? " column " text
    let text ← dropNumber? text
    dropWord? " at line " text
  match shortened with
  | some text => String.ofList text.reverse
  | none => text

def Mismatch.message : Mismatch → String
  | .wrongType found expected => "invalid type: " ++ found.describe ++ ", expected " ++ expected
  | .outOfRange value expected =>
      "invalid value: " ++ (Found.integer value).describe ++ ", expected " ++ expected
  | .wrongLength length expected =>
      "invalid length " ++ Digits.decimal length ++ ", expected " ++ expected
  | .missingField key => "missing field " ++ ticked key
  | .duplicateField key => "duplicate field " ++ ticked key
  | .unknownField key known =>
      "unknown field " ++ ticked key ++ ", expected one of " ++
        String.intercalate ", " (known.map ticked)
  | .refused reason => withoutPosition reason

/-- Why a document could not be read. -/
inductive Failure where
  /-- The text ends inside the document. -/
  | endOfText
  /-- The text is no document. -/
  | malformed
  | mismatch (cause : Mismatch)
deriving DecidableEq, Repr

def Failure.message : Failure → String
  | .endOfText => "the text ends inside the document"
  | .malformed => "the text is malformed"
  | .mismatch cause => cause.message

end FrameRouter.Json
