import FrameRouter.Proofs.Frame.Sealed
import FrameRouter.Proofs.Sink.Filling
import FrameRouter.Sink.Queue

/-!
# Queues of different depths

Two queues are alike when they hold the same words in front of consumers that
hold the same; how many words there is room for has no part in it.  Queues that
are alike stay alike whatever they take, and also behind normalizers, as long
as both can take the words that fill up frames.
-/

namespace FrameRouter

open Normalization

namespace Queue

/-- The queues and their consumers hold the same words. -/
structure Alike (first second : Queue) : Prop where
  words : first.words = second.words
  held : first.held = second.held

/-- No word waits in the queue, and there is room for so many. -/
structure Cleared (least : Nat) (queue : Queue) : Prop where
  words : queue.words = #[]
  room : least ≤ queue.capacity

variable {first second queue : Queue} {least : Nat}

theorem Alike.push (alike : first.Alike second) (word : Word) :
    (Sink.push first word).Alike (Sink.push second word) :=
  ⟨congrArg (Array.push · word) alike.words, alike.held⟩

theorem Alike.drain (alike : first.Alike second) :
    first.drain.1 = second.drain.1 ∧ first.drain.2.Alike second.drain.2 := by
  unfold Queue.drain
  rw [alike.words, alike.held]
  exact ⟨rfl, rfl, rfl⟩

/-- What comes out does not depend on a drainage in front of a word. -/
theorem drain_push (queue : Queue) (word : Word) :
    (Sink.push queue word).drain =
      (queue.drain.1 ++ (Sink.push queue.drain.2 word).drain.1,
        (Sink.push queue.drain.2 word).drain.2) := by
  have pushed : (Sink.push queue word).words.toList = queue.words.toList ++ [word] :=
    Array.toList_push
  have after := Reassembly.run_append queue.held queue.words.toList [word]
  rw [← pushed] at after
  have held : (Sink.push queue word).held = queue.held := rfl
  simp only [Queue.drain, held, after]
  rfl

theorem Cleared.ready (cleared : queue.Cleared least) (positive : 0 < least) :
    Sink.ready queue = true := by
  refine decide_eq_true ?_
  rw [cleared.words]
  exact positive.trans_le cleared.room

theorem Cleared.drain (cleared : queue.Cleared least) : queue.drain = ([], queue) := by
  obtain ⟨capacity, words, held⟩ := queue
  obtain ⟨rfl, _⟩ := cleared
  rfl

theorem cleared_drain (room : least ≤ queue.capacity) : queue.drain.2.Cleared least := ⟨rfl, room⟩

end Queue

namespace Normalizer

/-- The normalizers stand at the same place in front of queues that are alike. -/
structure Alike (first second : Normalizer Queue) : Prop where
  inner : first.inner.Alike second.inner
  stage : first.stage = second.stage
  truncations : first.truncations = second.truncations
  extensions : first.extensions = second.extensions

/-- The normalizer, the queue behind it drained. -/
def emptied (normalizer : Normalizer Queue) : Normalizer Queue :=
  { normalizer with inner := normalizer.inner.drain.2 }

variable {first second normalizer : Normalizer Queue} {least : Nat}

theorem Alike.push (alike : first.Alike second) (word : Word) :
    (Sink.push first word).Alike (Sink.push second word) := by
  change (first.push word).Alike (second.push word)
  unfold Normalizer.push
  rw [alike.stage, alike.truncations, alike.extensions]
  generalize accept word second.stage = result
  obtain ⟨passed, next⟩ := result
  refine ⟨?_, rfl, rfl, rfl⟩
  cases passed with
  | none => exact alike.inner
  | some out => exact alike.inner.push out

theorem Alike.tick (alike : first.Alike second) (firstReady : Sink.ready first.inner = true)
    (secondReady : Sink.ready second.inner = true) :
    (Sink.tick first).Alike (Sink.tick second) := by
  change (first.tick).Alike (second.tick)
  unfold Normalizer.tick Normalizer.fill
  rw [alike.stage, firstReady, secondReady]
  cases second.stage with
  | filling count tail =>
      exact ⟨alike.inner.push _, rfl, alike.truncations, alike.extensions⟩
  | _ => exact alike

/-- A tick hands at most one word over to a queue in which none waits. -/
theorem length_tick_le (cleared : normalizer.inner.Cleared least) :
    (Sink.tick normalizer).inner.length ≤ 1 := by
  have empty : normalizer.inner.words.size = 0 := by
    rw [cleared.words]
    rfl
  rcases normalizer.tick_spec with ⟨count, tail, _, _, ticked⟩ | ⟨_, ticked⟩
  · rw [ticked]
    change (normalizer.inner.words.push _).size ≤ 1
    rw [Array.size_push, empty]
  · rw [ticked]
    change normalizer.inner.words.size ≤ 1
    rw [empty]
    exact Nat.zero_le 1

theorem capacity_push (normalizer : Normalizer Queue) (word : Word) :
    (Sink.push normalizer word).inner.capacity = normalizer.inner.capacity := by
  obtain ⟨_, discarded, passed⟩ := normalizer.push_spec word
  cases result : (accept word normalizer.stage).1 with
  | none => rw [discarded result]
  | some out =>
      rw [passed out result]
      rfl

theorem capacity_tick (normalizer : Normalizer Queue) :
    (Sink.tick normalizer).inner.capacity = normalizer.inner.capacity := by
  rcases normalizer.tick_spec with ⟨_, _, _, _, ticked⟩ | ⟨_, ticked⟩
  · rw [ticked]
    rfl
  · rw [ticked]
    rfl

/-- What comes out behind a normalizer does not depend on a drainage in front of a word. -/
theorem drain_push (normalizer : Normalizer Queue) (word : Word) :
    (Sink.push normalizer word).inner.drain.1 =
        normalizer.inner.drain.1 ++ (Sink.push normalizer.emptied word).inner.drain.1 ∧
      (Sink.push normalizer word).emptied = (Sink.push normalizer.emptied word).emptied := by
  change (normalizer.push word).inner.drain.1 = _ ++ (normalizer.emptied.push word).inner.drain.1 ∧
    (normalizer.push word).emptied = (normalizer.emptied.push word).emptied
  unfold emptied Normalizer.push
  generalize accept word normalizer.stage = result
  obtain ⟨passed, next⟩ := result
  cases passed with
  | none =>
      have again : normalizer.inner.drain.2.drain = ([], normalizer.inner.drain.2) :=
        (Queue.cleared_drain (Nat.zero_le _)).drain
      simp [again]
  | some out => simp [normalizer.inner.drain_push out]

end Normalizer

end FrameRouter
