import FrameRouter.Json.Failure

/-!
# Readers

A reader takes the text in front of it and gives a value together with the
text that is left.
-/

namespace FrameRouter.Json

/-- Read a value from the front of a text. -/
abbrev Reader (α : Type) := List Char → Except Failure (α × List Char)

/-- The characters that may stand between the parts of a document. -/
def isBlank (character : Char) : Bool :=
  character = ' ' || character = '\t' || character = '\n' || character = '\r'

/-- The text behind its leading blanks. -/
def skipBlanks (text : List Char) : List Char := text.dropWhile isBlank

def mismatch {α : Type} (cause : Mismatch) : Except Failure α := .error (.mismatch cause)

/-- Read exactly the given characters. -/
def word : List Char → List Char → Except Failure (List Char)
  | [], text => .ok text
  | _ :: _, [] => .error .endOfText
  | expected :: others, character :: rest =>
      if character = expected then word others rest else .error .malformed

/-- Whether the text begins with a decimal digit. -/
def startsWithDigit : List Char → Bool
  | character :: _ => character.isDigit
  | [] => false

/-- Read a whole document: nothing but blanks may follow the value. -/
def document {α : Type} (read : Reader α) (text : String) : Except Failure α := do
  let (value, rest) ← read text.toList
  if (skipBlanks rest).isEmpty then return value else throw .malformed

end FrameRouter.Json
