import FrameRouter.Text.DefaultIgnorable
import FrameRouter.Text.Digits
import FrameRouter.Text.GraphemeExtend
import FrameRouter.Text.Unprintable

/-!
# Quoted text

Text shown inside a message stands between quotes.  Escapes keep it on one
line and make every character visible: a character without a visible form of
its own is written as its code point.
-/

namespace FrameRouter.Quoted

/-- A backslash in front of one character. -/
def escape (character : Char) : List Char := ['\\', character]

/-- A character as its hexadecimal code point. -/
def codePoint (character : Char) : List Char :=
  ['\\', 'u', '\x7b'] ++ Digits.render 16 character.toNat ++ ['\x7d']

/-- A halfwidth sound mark, which changes the letter in front of it and is a letter itself. -/
def isSoundMark (c : Char) : Bool := c = '\uff9e' || c = '\uff9f'

/-- Whether the character has a form that is seen wherever it stands. -/
def isVisible (c : Char) : Bool :=
  (!GraphemeExtend.contains c || isSoundMark c) && !DefaultIgnorable.contains c &&
    !Unprintable.contains c

/-- One character between quotes of the given kind. -/
def character (quote c : Char) : List Char :=
  if c = '\x00' then escape '0'
  else if c = '\t' then escape 't'
  else if c = '\n' then escape 'n'
  else if c = '\r' then escape 'r'
  else if c = '\\' ∨ c = quote then escape c
  else if isVisible c then [c]
  else codePoint c

/-- The text between quotes of the given kind. -/
def between (quote : Char) (text : List Char) : String :=
  String.ofList (quote :: text.flatMap (character quote) ++ [quote])

/-- The text between double quotes. -/
def text (content : String) : String := between '\x22' content.toList

end FrameRouter.Quoted
