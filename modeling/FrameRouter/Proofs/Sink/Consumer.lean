import FrameRouter.Proofs.Frame.Sealed
import FrameRouter.Proofs.Sink.Observed
import FrameRouter.Sink.Queue
import FrameRouter.Sink.Scripted

/-!
# Consumers

A sink with a consumer is set up, visited from time to time and looked at in
the end.  Every visit may hand out frames.  A queue is drained by its visits; a
scripted sink is given another timetable by them, and its record is read in the
end.  Visits may also change an observed sink of any kind at will, and then its
records are read.  In all cases no more and no fewer frames are handed out than
are in the stream that the sink has taken.
-/

namespace FrameRouter

/-- What happens behind a sink. -/
class Consumer (S : Type) [Sink S] where
  Setup : Type
  setUp : Setup → S
  Visit : Type
  /-- The frames handed out by a visit, and the sink behind it. -/
  visit : Visit → S → List Frame × S
  /-- The frames to be had in the end, besides those handed out before. -/
  collect : S → List Frame

instance : Consumer Queue where
  Setup := Nat
  setUp := Queue.ofDepth
  Visit := Unit
  visit := fun _ queue => queue.drain
  collect := fun queue => queue.drain.1

instance : Consumer ScriptedSink where
  Setup := Schedule
  setUp := ScriptedSink.ofSchedule
  Visit := Schedule
  visit := fun schedule sink => ([], sink.reschedule schedule)
  collect := ScriptedSink.frames

instance {S : Type} [Sink S] : Consumer (Observed S) where
  Setup := S
  setUp := Observed.fresh
  Visit := S → S
  visit := fun change observed => ([], observed.alter change)
  collect := fun observed => Frame.ofStream observed.words

/-- A relation between frames handed out, a sink and its words that shows nothing is lost. -/
structure Consumer.Keeps {S : Type} [Sink S] [Consumer S]
    (holds : List Frame → S → List Word → Prop) : Prop where
  setUp : ∀ setup, holds [] (Consumer.setUp setup) []
  tracks : ∀ received, Tracks (holds received)
  visit : ∀ (visit : Consumer.Visit S) {received sink words}, holds received sink words →
    holds (received ++ (Consumer.visit visit sink).1) (Consumer.visit visit sink).2 words
  collect : ∀ {received sink words}, holds received sink words →
    received ++ Consumer.collect sink = Frame.ofStream words

/-- What was drained from a queue and what is in it make up its words. -/
def Queue.Holds (received : List Frame) (queue : Queue) (words : List Word) : Prop :=
  Reassembly.run [] words =
    ⟨received ++ (Reassembly.run queue.held queue.words.toList).frames,
      (Reassembly.run queue.held queue.words.toList).held⟩

/-- A queue hands out what it takes. -/
theorem Queue.keeps_holds : Consumer.Keeps Queue.Holds where
  setUp := fun _ => rfl
  tracks := by
    intro received
    constructor
    · intro queue words word holds _
      have pushed : (Sink.push queue word).words.toList = queue.words.toList ++ [word] :=
        Array.toList_push
      have held : (Sink.push queue word).held = queue.held := rfl
      unfold Holds at holds ⊢
      rw [Reassembly.run_append, holds, pushed, held, Reassembly.run_append queue.held]
      simp
    · exact id
  visit := by
    intro visit received queue words holds
    unfold Holds at holds ⊢
    rw [holds]
    simp [Consumer.visit, Queue.drain, Reassembly.run]
  collect := by
    intro received queue words holds
    rw [Frame.ofStream, holds]
    rfl

/-- A queue of the given depth does not hold more words than it can. -/
structure Queue.Within (depth : Nat) (queue : Queue) : Prop where
  capacity : queue.capacity = max depth 1
  length : queue.length ≤ max depth 1

namespace Queue.Within

variable {depth : Nat} {queue : Queue}

theorem ofDepth (depth : Nat) : Within depth (.ofDepth depth) := ⟨rfl, Nat.zero_le _⟩

/-- A queue that is ready has room for one more word. -/
theorem push (within : Within depth queue) (word : Word) (isReady : Sink.ready queue = true) :
    Within depth (Sink.push queue word) := by
  have room : queue.length < queue.capacity := of_decide_eq_true isReady
  rw [within.capacity] at room
  refine ⟨within.capacity, ?_⟩
  change (queue.words.push word).size ≤ max depth 1
  rw [Array.size_push]
  exact room

theorem tracks (depth : Nat) : Tracks fun queue (_ : List Word) => Within depth queue where
  push := fun word within isReady => within.push word isReady
  tick := id

/-- A queue is ready as long as it holds fewer words than it can. -/
theorem ready_iff (within : Within depth queue) :
    Sink.ready queue = true ↔ queue.length < max depth 1 := by
  rw [← within.capacity]
  exact decide_eq_true_iff

end Queue.Within

/-- A scripted sink has its words on record. -/
def ScriptedSink.Holds (received : List Frame) (sink : ScriptedSink) (words : List Word) : Prop :=
  received = [] ∧ sink.words = words

/-- A scripted sink records what it takes. -/
theorem ScriptedSink.keeps_holds : Consumer.Keeps ScriptedSink.Holds where
  setUp := fun _ => ⟨rfl, rfl⟩
  tracks := by
    intro received
    constructor
    · rintro sink words word ⟨nothing, rfl⟩ _
      refine ⟨nothing, ?_⟩
      change ((sink.record.push (sink.now, word)).toList.map Prod.snd) = _
      rw [Array.toList_push, List.map_append]
      rfl
    · exact id
  visit := by
    rintro visit received sink words ⟨rfl, recorded⟩
    exact ⟨rfl, recorded⟩
  collect := by
    rintro received sink words ⟨rfl, recorded⟩
    rw [← recorded]
    rfl

/-- An observed sink has its words on record, whatever happens to the sink itself. -/
def Observed.Holds {S : Type} (received : List Frame) (observed : Observed S)
    (words : List Word) : Prop :=
  received = [] ∧ observed.words = words

/-- An observed sink records what it takes. -/
theorem Observed.keeps_holds (S : Type) [Sink S] :
    Consumer.Keeps (Observed.Holds : List Frame → Observed S → List Word → Prop) where
  setUp := fun _ => ⟨rfl, rfl⟩
  tracks := by
    intro received
    constructor
    · rintro observed words word ⟨nothing, rfl⟩ _
      exact ⟨nothing, observed.words_push word⟩
    · exact id
  visit := by
    rintro change received observed words ⟨rfl, recorded⟩
    exact ⟨rfl, recorded⟩
  collect := by
    rintro received observed words ⟨rfl, recorded⟩
    rw [← recorded]
    rfl

end FrameRouter
