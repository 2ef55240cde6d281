import FrameRouter.Frame.Reassembly
import FrameRouter.Sink.Basic
import FrameRouter.Text.Digits

/-!
# Bounded queues

A queue holds words between the router and a consumer.  The router may push
while there is room; the consumer takes single words, or drains the queue and
puts the words back together into frames.
-/

namespace FrameRouter

/-- A bounded first-in first-out queue together with its consumer. -/
structure Queue where
  /-- Words the queue can hold. -/
  capacity : Nat
  /-- Words pushed and not yet taken, oldest first. -/
  words : Array Word
  /-- Words the consumer holds of a frame that is not complete, newest first. -/
  held : List Word
deriving DecidableEq, Repr

namespace Queue

/-- The depth used when none is given. -/
def defaultDepth : Nat := 1024

/-- An empty queue of the given depth; a queue holds at least one word. -/
def ofDepth (depth : Nat) : Queue := ⟨max depth 1, #[], []⟩

/-- The bytes that a slot takes: a word and its turn. -/
def slotSize : Nat := 16

/-- The bytes that a queue of the given depth takes, all its slots at once. -/
def size (depth : Nat) : Nat := (ofDepth depth).capacity * slotSize

/-- The greatest size that can be asked for. -/
def greatestSize : Nat := Nat.pow 2 63 - 1

/-- Why queues cannot be set up. -/
inductive Excess where
  /-- A queue is larger than anything that can be asked for. -/
  | tooLarge
  /-- There is no memory for queues of this size. -/
  | unavailable (size : Nat)
deriving DecidableEq, Repr

def Excess.message : Excess → String
  | .tooLarge => "capacity overflow"
  | .unavailable size => "memory allocation of " ++ Digits.decimal size ++ " bytes failed"

/-- What keeps so many queues of the given depth from being set up in the given memory. -/
def excess? (memory count depth : Nat) : Option Excess :=
  if greatestSize < size depth then some .tooLarge
  else if memory < count * size depth then some (.unavailable (size depth))
  else none

def length (queue : Queue) : Nat := queue.words.size

def isEmpty (queue : Queue) : Bool := queue.words.isEmpty

/-- Whether there is room for a word. -/
def hasRoom (queue : Queue) : Bool := queue.words.size < queue.capacity

/-- Put a word behind the waiting ones. -/
def push (queue : Queue) (word : Word) : Queue := { queue with words := queue.words.push word }

/-- Take the oldest waiting word. -/
def pop? (queue : Queue) : Option (Word × Queue) :=
  match queue.words.toList with
  | [] => none
  | word :: rest => some (word, { queue with words := rest.toArray })

/-- Take every waiting word and hand out the frames they complete. -/
def drain (queue : Queue) : List Frame × Queue :=
  let after := Reassembly.run queue.held queue.words.toList
  (after.frames, { queue with words := #[], held := after.held })

instance : Sink Queue where
  ready := hasRoom
  push := push
  tick := id
  isIdle := fun _ => true

end Queue

end FrameRouter
