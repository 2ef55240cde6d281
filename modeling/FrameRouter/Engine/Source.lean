import FrameRouter.Frame.Basic

/-!
# Source

A source presents the words of waiting frames one at a time.  The front frame
is kept split at the reading position.
-/

namespace FrameRouter

/-- Waiting frames, the front one split at the next word to present. -/
structure Source where
  /-- Words of the front frame already taken, newest first. -/
  taken : List Word
  /-- Words of the front frame still to be presented. -/
  upcoming : List Word
  /-- The frames behind the front one. -/
  waiting : List Frame
deriving DecidableEq, Repr

namespace Source

def empty : Source := ⟨[], [], []⟩

instance : Inhabited Source := ⟨empty⟩

def current (source : Source) : Option Word := source.upcoming.head?

/-- Whether no frame is waiting. -/
def isEmpty (source : Source) : Bool := source.upcoming.isEmpty && source.waiting.isEmpty

/-- Frames not taken to their end. -/
def pending (source : Source) : Nat :=
  source.waiting.length + if source.upcoming.isEmpty then 0 else 1

/-- Let a frame wait behind the others.  A frame without words is passed over. -/
def push (source : Source) (frame : Frame) : Source :=
  if frame.isEmpty then source
  else if source.upcoming.isEmpty then { source with upcoming := frame.words }
  else { source with waiting := source.waiting ++ [frame] }

def pushAll (source : Source) (frames : List Frame) : Source := frames.foldl push source

/-- Move past the presented word; behind the last one the next frame follows. -/
def advance (source : Source) : Source :=
  match source.upcoming, source.waiting with
  | [], _ => source
  | [_], [] => empty
  | [_], frame :: rest => ⟨[], frame.words, rest⟩
  | word :: next :: rest, waiting => ⟨word :: source.taken, next :: rest, waiting⟩

/-- The frame whose words are being presented. -/
def front? (source : Source) : Option Frame :=
  if source.upcoming.isEmpty then none else some ⟨source.taken.reverse ++ source.upcoming⟩

/-- The number of words of the front frame already taken. -/
def position (source : Source) : Nat := source.taken.length

/-- The words still to be presented. -/
def remaining (source : Source) : List Word :=
  source.upcoming ++ source.waiting.flatMap Frame.words

end Source

end FrameRouter
