import FrameRouter.Json.Number
import FrameRouter.Json.Text

/-!
# Passing over a value

The value of a field that nobody asked for is passed over.  It has to be well
formed, but it may be nested to any depth.
-/

namespace FrameRouter.Json

/-- A list or an object that is not closed yet. -/
inductive Nesting where
  | list
  | object
deriving DecidableEq, Repr

/-- The character that closes it. -/
def Nesting.closing : Nesting → Char
  | .list => ']'
  | .object => '\x7d'

/-- Pass over the key of an object member and the colon behind it. -/
def skipKey (text : List Char) : Except Failure (List Char) :=
  match skipBlanks text with
  | [] => .error .endOfText
  | '\x22' :: rest => do
      match skipBlanks (← skipText rest) with
      | [] => .error .endOfText
      | ':' :: after => .ok after
      | _ => .error .malformed
  | _ => .error .malformed

/-- The text in front of the next value inside the innermost open nesting. -/
def enter : Nesting → List Char → Except Failure (List Char)
  | .list, text => .ok text
  | .object, text => skipKey text

/--
Close nestings behind a value until a comma announces the next one.  The
results are the nestings still open and the text that is left; none open means
that the outermost value is complete.
-/
def closeNestings : List Nesting → List Char → Except Failure (List Nesting × List Char)
  | [], text => .ok ([], text)
  | nesting :: outer, text =>
      match skipBlanks text with
      | [] => .error .endOfText
      | character :: rest =>
          if character = ',' then do
            return (nesting :: outer, ← enter nesting rest)
          else if character = nesting.closing then
            closeNestings outer rest
          else
            .error .malformed

/-- Pass over a value that is neither a list nor an object. -/
def skipScalar (text : List Char) : Except Failure (List Char) :=
  match text with
  | 'n' :: rest => word "ull".toList rest
  | 't' :: rest => word "rue".toList rest
  | 'f' :: rest => word "alse".toList rest
  | '\x22' :: rest => skipText rest
  | _ => if startsNumber text then skipNumber text else .error .malformed

/-- Go into a nesting just opened: it may be empty. -/
def openNesting (nesting : Nesting) (outer : List Nesting) (text : List Char) :
    Except Failure (List Nesting × List Char) :=
  match skipBlanks text with
  | [] => .error .endOfText
  | character :: rest =>
      if character = nesting.closing then
        closeNestings outer rest
      else do
        return (nesting :: outer, ← enter nesting (character :: rest))

/-- Pass over the next value and what closes behind it. -/
def skipStep (outer : List Nesting) (text : List Char) :
    Except Failure (List Nesting × List Char) :=
  match skipBlanks text with
  | [] => .error .endOfText
  | '[' :: rest => openNesting .list outer rest
  | '\x7b' :: rest => openNesting .object outer rest
  | other => do closeNestings outer (← skipScalar other)

/-- Pass over values until no nesting is open; each step takes at least one character. -/
def skipFrom : Nat → List Nesting → List Char → Except Failure (List Char)
  | 0, _, _ => .error .malformed
  | fuel + 1, outer, text =>
      match skipStep outer text with
      | .error failure => .error failure
      | .ok ([], rest) => .ok rest
      | .ok (nesting :: others, rest) => skipFrom fuel (nesting :: others) rest

def skipValue (text : List Char) : Except Failure (List Char) :=
  skipFrom (text.length + 1) [] text

end FrameRouter.Json
