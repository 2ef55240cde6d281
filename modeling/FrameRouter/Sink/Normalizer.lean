import FrameRouter.Header.Layout
import FrameRouter.Sink.Basic

/-!
# Length normalisation

Padding makes a short packet look longer than its declared length, and a cut
capture makes it look shorter.  The normalizer stands in front of the fast
sink and moves the end of every network packet to where the declared length
puts it: it swallows words behind that end and adds zero words, one a tick, up
to it.  It also clears the side annotation of every word.
-/

namespace FrameRouter

/-- Where the normalizer stands within the current frame. -/
inductive Normalizing where
  /-- The declared length is not known; so many words have passed. -/
  | header (passed : Nat) (ipv4 : Bool)
  /-- The declared length is known; so many words have passed. -/
  | body (passed : Nat) (extent : Header.Extent)
  /-- The frame has ended; its words are discarded up to the terminal one. -/
  | swallowing
  /-- Zero words are owed, the final one with the given count of valid lanes. -/
  | filling (owed : Nat) (tail : UInt8)
deriving DecidableEq, Repr

namespace Normalizing

/-- In front of the first word of a frame. -/
def start : Normalizing := .header 0 false

end Normalizing

/-- A sink whose frames end where their declared length says. -/
structure Normalizer (S : Type) where
  inner : S
  stage : Normalizing
  /-- Frames cut at their declared end. -/
  truncations : Nat
  /-- Frames filled up to their declared end. -/
  extensions : Nat
deriving DecidableEq, Repr

namespace Normalizer

variable {S : Type}

/-- The normalizer in front of a sink. -/
def around (inner : S) : Normalizer S := ⟨inner, .start, 0, 0⟩

/-- The word with every lane past its valid ones set to zero. -/
def clearStale (word : Word) : Word :=
  { word with
    data :=
      match word.bytes.toNat with
      | 0 => 0
      | 1 => word.data &&& 0xff000000
      | 2 => word.data &&& 0xffff0000
      | 3 => word.data &&& 0xffffff00
      | _ => word.data }

/-- The zero word that fills up a short frame. -/
def fillWord (owed : Nat) (tail : UInt8) : Word :=
  if owed = 1 then Word.terminal 0 tail else Word.full 0

/-- What becomes of the word at a position, counted from one, of a frame of known extent. -/
def place (extent : Header.Extent) (position : Nat) (word : Word) : Word × Normalizing :=
  if extent.words ≤ position then
    ({ word with bytes := if position = extent.words then extent.tail else 4, last := true },
      if word.last then .start else .swallowing)
  else if word.last then
    ({ clearStale word with bytes := 4, last := false },
      .filling (extent.words - position) extent.tail)
  else
    (word, .body position extent)

/-- What becomes of a word in front of the declared end; `none` when it is discarded. -/
def accept (word : Word) : Normalizing → Option Word × Normalizing
  | .header passed ipv4 =>
      let clean := { word with side := 0 }
      let ipv4 := if passed = 3 then Header.ethertype word == Header.ipv4Ethertype else ipv4
      if passed = 4 ∧ ipv4 then
        (place (Header.Extent.ofTotalLength (Header.totalLength word)) 5 clean).map some id
      else
        (some clean, if word.last then .start else .header (passed + 1) ipv4)
  | .body passed extent =>
      (place extent (passed + 1) { word with side := 0 }).map some id
  | .swallowing => (none, if word.last then .start else .swallowing)
  | .filling owed tail => (none, .filling owed tail)

variable [Sink S]

/-- Whether a word can be taken; words to discard always can. -/
def ready (normalizer : Normalizer S) : Bool :=
  match normalizer.stage with
  | .swallowing => true
  | .filling _ _ => false
  | _ => Sink.ready normalizer.inner

/-- Take one word of the frame. -/
def push (normalizer : Normalizer S) (word : Word) : Normalizer S :=
  let (passed, stage) := accept word normalizer.stage
  { inner :=
      match passed with
      | some word => Sink.push normalizer.inner word
      | none => normalizer.inner
    stage := stage
    truncations :=
      match normalizer.stage, stage with
      | .swallowing, _ => normalizer.truncations
      | _, .swallowing => normalizer.truncations + 1
      | _, _ => normalizer.truncations
    extensions :=
      match normalizer.stage, stage with
      | .filling _ _, _ => normalizer.extensions
      | _, .filling _ _ => normalizer.extensions + 1
      | _, _ => normalizer.extensions }

/-- Hand over one owed zero word if the sink behind can take it. -/
def fill (normalizer : Normalizer S) : Normalizer S :=
  match normalizer.stage with
  | .filling owed tail =>
      if Sink.ready normalizer.inner then
        { normalizer with
          inner := Sink.push normalizer.inner (fillWord owed tail)
          stage := if owed ≤ 1 then .start else .filling (owed - 1) tail }
      else
        normalizer
  | _ => normalizer

/-- Let one tick pass: fill first, then advance the sink behind. -/
def tick (normalizer : Normalizer S) : Normalizer S :=
  let filled := normalizer.fill
  { filled with inner := Sink.tick filled.inner }

/-- Whether no zero word is owed and the sink behind is idle. -/
def isIdle (normalizer : Normalizer S) : Bool :=
  match normalizer.stage with
  | .filling _ _ => false
  | _ => Sink.isIdle normalizer.inner

instance : Sink (Normalizer S) where
  ready := ready
  push := push
  tick := tick
  isIdle := isIdle

end Normalizer

end FrameRouter
