import FrameRouter.Json.Sequence
import FrameRouter.Json.Skip

/-!
# Records

A record stands in a document as an object, in any order of its fields, or as
a sequence of its fields in their declared order.  While it is read, a draft
holds what has been seen; a complete draft gives the record.
-/

namespace FrameRouter.Json

/-- A field of a record whose draft has type `δ`. -/
structure Field (δ : Type) where
  key : String
  /-- The field has been read. -/
  isSet : δ → Bool
  /-- Read the field into the draft. -/
  read : δ → Reader δ

/-- A field that is kept as an optional value in the draft. -/
def Field.of {δ α : Type} (key : String) (get : δ → Option α) (set : δ → α → δ)
    (read : Reader α) : Field δ where
  key := key
  isSet := fun draft => (get draft).isSome
  read := fun draft text => do
    let (value, rest) ← read text
    return (set draft value, rest)

/-- How a record of type `α` is written in a document. -/
structure RecordFormat (δ α : Type) where
  name : String
  /-- The draft in which no field is set. -/
  blank : δ
  /-- The fields, in declared order. -/
  fields : List (Field δ)
  /-- Fields with other keys are refused, not passed over. -/
  closed : Bool
  /-- The record of a draft, or the key of the first field that is missing. -/
  complete : δ → Except String α

/-- The value of a field without a default, or the key of the missing field. -/
def required {α : Type} (key : String) : Option α → Except String α
  | some value => .ok value
  | none => .error key

namespace RecordFormat

variable {δ α : Type}

/-- The keys, in declared order. -/
def keys (format : RecordFormat δ α) : List String := format.fields.map Field.key

/-- Read fields in declared order, up to the end of the sequence. -/
def readElements : List (Field δ) → Bool → δ → List Char → Except Failure (δ × List Char)
  | [], _, draft, text => .ok (draft, text)
  | field :: others, first, draft, text => do
      match ← nextElement first text with
      | none => return (draft, text)
      | some front =>
          let (draft, rest) ← field.read draft front
          readElements others false draft rest

/-- What a sequence should have been. -/
def expectedElements (format : RecordFormat δ α) : String :=
  "struct " ++ format.name ++ " with " ++ Digits.decimal format.fields.length ++ " elements"

/-- Read the record as a sequence, behind its opening bracket. -/
def readSequence (format : RecordFormat δ α) (text : List Char) :
    Except Failure (α × List Char) := do
  let (draft, rest) ← readElements format.fields true format.blank text
  match format.complete draft with
  | .ok value => return (value, ← closeSequence rest)
  | .error key => mismatch (.wrongLength (format.keys.idxOf key) format.expectedElements)

/--
The key in front and the text behind it, or `none` in front of the closing
brace.  Members other than the first follow a comma.
-/
def nextKey (first : Bool) (text : List Char) : Except Failure (Option (String × List Char)) :=
  match skipBlanks text with
  | [] => .error .endOfText
  | '\x7d' :: _ => .ok none
  | character :: rest =>
      if first then
        if character = '\x22' then do return some (← readText rest) else .error .malformed
      else if character = ',' then
        match skipBlanks rest with
        | [] => .error .endOfText
        | '\x22' :: rest => do return some (← readText rest)
        | _ => .error .malformed
      else
        .error .malformed

/-- Read the colon behind a key. -/
def colon (text : List Char) : Except Failure (List Char) :=
  match skipBlanks text with
  | [] => .error .endOfText
  | ':' :: rest => .ok rest
  | _ => .error .malformed

/-- Read the value of a member into the draft. -/
def readMember (format : RecordFormat δ α) (draft : δ) (key : String) (text : List Char) :
    Except Failure (δ × List Char) :=
  match format.fields.find? fun field => field.key = key with
  | some field =>
      if field.isSet draft then mismatch (.duplicateField key)
      else do field.read draft (← colon text)
  | none =>
      if format.closed then mismatch (.unknownField key format.keys)
      else do return (draft, ← skipValue (← colon text))

/-- Read members up to the closing brace; each takes at least one character. -/
def readMembers (format : RecordFormat δ α) :
    Nat → Bool → δ → List Char → Except Failure (δ × List Char)
  | 0, _, _, _ => .error .malformed
  | fuel + 1, first, draft, text =>
      match nextKey first text with
      | .error failure => .error failure
      | .ok none => .ok (draft, (skipBlanks text).drop 1)
      | .ok (some (key, rest)) =>
          match format.readMember draft key rest with
          | .error failure => .error failure
          | .ok (draft, rest) => readMembers format fuel false draft rest

/-- Read the record as an object, behind its opening brace. -/
def readObject (format : RecordFormat δ α) (text : List Char) :
    Except Failure (α × List Char) := do
  let (draft, rest) ← format.readMembers (text.length + 1) true format.blank text
  match format.complete draft with
  | .ok value => return (value, rest)
  | .error key => mismatch (.missingField key)

/-- Read the record in either form. -/
def read (format : RecordFormat δ α) : Reader α := fun text =>
  match skipBlanks text with
  | [] => .error .endOfText
  | '[' :: rest => format.readSequence rest
  | '\x7b' :: rest => format.readObject rest
  | other => wrongType ("struct " ++ format.name) other

end RecordFormat

end FrameRouter.Json
