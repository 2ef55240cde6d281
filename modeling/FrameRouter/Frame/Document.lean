import FrameRouter.Frame.Basic
import FrameRouter.Json.Record
import FrameRouter.Json.Value

/-!
# Frames in documents

A frame stands in a document as the list of its words.  Whatever marks the
words of a document carry, the frame read from them is terminal at its final
word only.
-/

namespace FrameRouter

namespace Word

/-- The fields of a word read so far. -/
structure Draft where
  data : Option UInt32
  side : Option UInt8
  bytes : Option UInt8
  last : Option Bool

/-- How a word is written in a document. -/
def format : Json.RecordFormat Draft Word where
  name := "Word"
  blank := ⟨none, none, none, none⟩
  fields := [
    .of "data" Draft.data (fun draft value => { draft with data := some value }) Json.uint32,
    .of "side" Draft.side (fun draft value => { draft with side := some value }) Json.uint8,
    .of "bytes" Draft.bytes (fun draft value => { draft with bytes := some value }) Json.uint8,
    .of "last" Draft.last (fun draft value => { draft with last := some value }) Json.boolean]
  closed := false
  complete := fun draft => do
    let data ← Json.required "data" draft.data
    let side ← Json.required "side" draft.side
    let bytes ← Json.required "bytes" draft.bytes
    let last ← Json.required "last" draft.last
    return ⟨data, side, bytes, last⟩

def ofDocument (text : String) : Except Json.Failure Word := Json.document format.read text

def toValue (word : Word) : Json.Value :=
  .object [
    ("data", .number word.data.toNat),
    ("side", .number word.side.toNat),
    ("bytes", .number word.bytes.toNat),
    ("last", .boolean word.last)]

end Word

namespace Frame

def reader : Json.Reader Frame := fun text => do
  let (words, rest) ← Json.sequence Word.format.read text
  return (ofWords words, rest)

def ofDocument (text : String) : Except Json.Failure Frame := Json.document reader text

def toValue (frame : Frame) : Json.Value := .list (frame.words.map Word.toValue)

end Frame

end FrameRouter
