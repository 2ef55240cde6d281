/-!
# Control sequences

A terminal takes some characters for commands: controls stand alone, and an
escape opens a sequence that reaches up to its final byte.  Text that was
given from outside is shown without them.
-/

namespace FrameRouter.ControlSequence

/-- The part of a sequence in which the next byte stands. -/
inductive Place where
  /-- Outside of sequences. -/
  | text
  /-- Behind an escape. -/
  | escape
  /-- Behind an escape and intermediate bytes. -/
  | intermediate
  /-- In a control sequence. -/
  | control
  /-- At the start of a device control string. -/
  | device
  /-- Among the parameters of a device control string. -/
  | deviceParameters
  /-- Among the intermediate bytes of a device control string. -/
  | deviceIntermediate
  /-- In the data of a device control string, or in a string of another kind. -/
  | data
  /-- In a command to the operating system. -/
  | command
deriving DecidableEq, Repr

namespace Place

/-- Where the byte behind an escape leads. -/
def afterEscape (byte : UInt8) : Place :=
  if byte < 0x20 then .escape
  else if byte < 0x30 then .intermediate
  else if byte = 0x50 then .device
  else if byte = 0x5b then .control
  else if byte = 0x5d then .command
  else if byte = 0x58 ∨ byte = 0x5e ∨ byte = 0x5f then .data
  else if byte < 0x7f then .text
  else .escape

/-- Where a byte leads; two of the controls give up any sequence, and an escape opens a new one. -/
def next (place : Place) (byte : UInt8) : Place :=
  if byte = 0x18 ∨ byte = 0x1a then .text
  else if byte = 0x1b then .escape
  else
    match place with
    | .text => .text
    | .escape => afterEscape byte
    | .intermediate => if 0x30 ≤ byte ∧ byte < 0x7f then .text else .intermediate
    | .control => if 0x40 ≤ byte ∧ byte < 0x7f then .text else .control
    | .device =>
        if byte < 0x20 ∨ 0x7f ≤ byte then .device
        else if byte < 0x30 then .deviceIntermediate
        else if byte < 0x40 then .deviceParameters
        else .data
    | .deviceParameters =>
        if byte < 0x20 ∨ 0x7f ≤ byte then .deviceParameters
        else if byte < 0x30 then .deviceIntermediate
        else if byte < 0x3c then .deviceParameters
        else .data
    | .deviceIntermediate => if 0x30 ≤ byte ∧ byte < 0x7f then .data else .deviceIntermediate
    | .data => if byte = 0x9c then .text else .data
    | .command => if byte = 0x07 then .text else .command

/-- Whether a control in this place takes effect without ending the sequence. -/
def obeysControls : Place → Bool
  | .escape | .intermediate | .control => true
  | _ => false

end Place

/-- A control that lays out text: a tab, a line end or a page end. -/
def isLayout (c : Char) : Bool := c = '\t' || c = '\n' || c = '\x0c' || c = '\r'

/-- Whether the character is part of the text when it stands outside of sequences. -/
def isText (c : Char) : Bool := isLayout c || (' ' ≤ c && c ≠ '\x7f')

/-- Text that has been read up to some character. -/
structure Reading where
  place : Place
  /-- A layout control inside a sequence has brought back text for a while. -/
  interrupted : Bool
  /-- The characters that are shown, the last one first. -/
  shown : List Char
deriving DecidableEq, Repr

namespace Reading

def start : Reading := ⟨.text, false, []⟩

def isOpen (reading : Reading) : Bool := reading.place = .text || reading.interrupted

/-- The place behind a character that is not shown. -/
def placeAfter (reading : Reading) (c : Char) : Place :=
  (String.utf8EncodeChar c).foldl Place.next reading.place

/--
Take the next character.  A character outside of the seven-bit set closes the
sequence in which it is shown, and inside a sequence it counts byte by byte.
-/
def take (reading : Reading) (c : Char) : Reading :=
  if reading.isOpen then
    if '\x7f' < c then ⟨.text, false, c :: reading.shown⟩
    else if isText c then { reading with shown := c :: reading.shown }
    else ⟨reading.placeAfter c, false, reading.shown⟩
  else if isLayout c && reading.place.obeysControls then
    ⟨reading.place, true, c :: reading.shown⟩
  else
    ⟨reading.placeAfter c, false, reading.shown⟩

end Reading

/-- The text without its control sequences and without controls that do not lay out text. -/
def remove (text : String) : String :=
  String.ofList (text.toList.foldl Reading.take .start).shown.reverse

end FrameRouter.ControlSequence
