import FrameRouter.Json.Scalar

/-!
# Sequences
-/

namespace FrameRouter.Json

/--
The text in front of the next element, or `none` in front of the closing
bracket.  Elements other than the first follow a comma.
-/
def nextElement (first : Bool) (text : List Char) : Except Failure (Option (List Char)) :=
  match skipBlanks text with
  | [] => .error .endOfText
  | ']' :: _ => .ok none
  | character :: rest =>
      if first then
        .ok (some (character :: rest))
      else if character = ',' then
        match skipBlanks rest with
        | [] => .error .endOfText
        | ']' :: _ => .error .malformed
        | other => .ok (some other)
      else
        .error .malformed

def closeSequence (text : List Char) : Except Failure (List Char) :=
  match skipBlanks text with
  | [] => .error .endOfText
  | ']' :: rest => .ok rest
  | _ => .error .malformed

/-- Read elements up to the closing bracket; each takes at least one character. -/
def elements {α : Type} (read : Reader α) :
    Nat → Bool → List α → List Char → Except Failure (List α × List Char)
  | 0, _, _, _ => .error .malformed
  | fuel + 1, first, done, text =>
      match nextElement first text with
      | .error failure => .error failure
      | .ok none => do return (done.reverse, ← closeSequence text)
      | .ok (some front) =>
          match read front with
          | .error failure => .error failure
          | .ok (value, rest) => elements read fuel false (value :: done) rest

/-- Read a sequence of any length. -/
def sequence {α : Type} (read : Reader α) : Reader (List α) := fun text =>
  match skipBlanks text with
  | [] => .error .endOfText
  | '[' :: rest => elements read (rest.length + 1) true [] rest
  | other => wrongType "a sequence" other

/-- Read one element of a sequence of fixed length. -/
def pairElement {α : Type} (read : Reader α) (position : Nat) (text : List Char) :
    Except Failure (α × List Char) := do
  match ← nextElement (position = 0) text with
  | none => mismatch (.wrongLength position "an array of length 2")
  | some front => read front

/-- Read a sequence of exactly two elements. -/
def pair {α : Type} (read : Reader α) : Reader (α × α) := fun text =>
  match skipBlanks text with
  | [] => .error .endOfText
  | '[' :: rest => do
      let (first, rest) ← pairElement read 0 rest
      let (second, rest) ← pairElement read 1 rest
      return ((first, second), ← closeSequence rest)
  | other => wrongType "an array of length 2" other

end FrameRouter.Json
