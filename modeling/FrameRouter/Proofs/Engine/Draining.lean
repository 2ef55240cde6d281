import FrameRouter.Proofs.Engine.Following
import FrameRouter.Proofs.Sink.QueueDepth
import FrameRouter.Engine.Departure

/-!
# Drained outlets

What comes out of the queues behind the outlets when they are drained, and what
is in them then.  Queues in which no word waits accept a word of any route, and
behind the tick of a normalizer this depends on their depth in one case only.
-/

namespace FrameRouter

open Normalization

namespace Outlets

/-- The outlets hold the same words. -/
structure Alike (first second : Outlets Queue) : Prop where
  slow : first.slow.Alike second.slow
  other : first.other.Alike second.other
  fast : first.fast.Alike second.fast

/-- Every queue has room for so many words. -/
def Roomy (least : Nat) (outlets : Outlets Queue) : Prop :=
  ∀ outlet, least ≤ (outlets.sink outlet).capacity

/-- No word waits in a queue, and each of them has room for so many. -/
def Cleared (least : Nat) (outlets : Outlets Queue) : Prop :=
  ∀ outlet, (outlets.sink outlet).Cleared least

/-- The outlets when all queues have been drained. -/
def emptied (outlets : Outlets Queue) : Outlets Queue :=
  ⟨outlets.slow.drain.2, outlets.other.drain.2, outlets.fast.emptied⟩

/-- What comes out of the queues when they are drained. -/
def departing (outlets : Outlets Queue) : List Departure :=
  outlets.slow.drain.1.map (Departure.mk .slow) ++
    outlets.other.drain.1.map (Departure.mk .other) ++
    outlets.fast.inner.drain.1.map (Departure.mk .fast)

variable {first second outlets : Outlets Queue} {least : Nat}

theorem Alike.deliver (alike : first.Alike second) (word : Word) (route : Route) :
    (first.deliver word route).Alike (second.deliver word route) := by
  obtain ⟨slow, other, fast⟩ := alike
  cases route with
  | slow => exact ⟨slow.push word, other, fast⟩
  | other => exact ⟨slow, other.push word, fast⟩
  | both => exact ⟨slow.push word, other.push word, fast⟩
  | fast => exact ⟨slow, other, fast.push word⟩
  | drop => exact ⟨slow, other, fast⟩

theorem Alike.tick (alike : first.Alike second) (firstCleared : first.Cleared 1)
    (secondCleared : second.Cleared 1) : first.tick.Alike second.tick :=
  ⟨alike.slow, alike.other,
    alike.fast.tick ((firstCleared .fast).ready Nat.one_pos)
      ((secondCleared .fast).ready Nat.one_pos)⟩

theorem Alike.departing_eq (alike : first.Alike second) :
    first.departing = second.departing := by
  unfold departing
  rw [alike.slow.drain.1, alike.other.drain.1, alike.fast.inner.drain.1]

theorem Alike.emptied (alike : first.Alike second) : first.emptied.Alike second.emptied :=
  ⟨alike.slow.drain.2, alike.other.drain.2,
    alike.fast.inner.drain.2, alike.fast.stage, alike.fast.truncations, alike.fast.extensions⟩

theorem Roomy.tick (roomy : outlets.Roomy least) : outlets.tick.Roomy least := by
  intro outlet
  cases outlet with
  | slow => exact roomy .slow
  | other => exact roomy .other
  | fast => exact (roomy .fast).trans_eq outlets.fast.capacity_tick.symm

theorem Roomy.deliver (roomy : outlets.Roomy least) (word : Word) (route : Route) :
    (outlets.deliver word route).Roomy least := by
  intro outlet
  cases outlet with
  | slow =>
      change least ≤ (outlets.deliver word route).slow.capacity
      rw [deliver_slow]
      split <;> exact roomy .slow
  | other =>
      change least ≤ (outlets.deliver word route).other.capacity
      rw [deliver_other]
      split <;> exact roomy .other
  | fast =>
      change least ≤ (outlets.deliver word route).fast.inner.capacity
      rw [deliver_fast]
      split
      · rw [outlets.fast.capacity_push]
        exact roomy .fast
      · exact roomy .fast

theorem Roomy.emptied (roomy : outlets.Roomy least) : outlets.emptied.Cleared least := by
  intro outlet
  cases outlet with
  | slow => exact Queue.cleared_drain (roomy .slow)
  | other => exact Queue.cleared_drain (roomy .other)
  | fast => exact Queue.cleared_drain (roomy .fast)

theorem Cleared.roomy (cleared : outlets.Cleared least) : outlets.Roomy least :=
  fun outlet => (cleared outlet).room

theorem Cleared.mono {fewer : Nat} (cleared : outlets.Cleared least) (within : fewer ≤ least) :
    outlets.Cleared fewer :=
  fun outlet => ⟨(cleared outlet).words, within.trans (cleared outlet).room⟩

/--
Behind a tick, queues of at least two words and queues of one accept a word of
the same routes.  Only on the fast route the narrow queue may refuse one, when
no further word is owed.
-/
theorem Alike.accepts_tick (alike : first.Alike second) (firstCleared : first.Cleared 2)
    (secondCleared : second.Cleared 1) (route : Route) :
    first.tick.accepts route = second.tick.accepts route ∨
      route = .fast ∧ first.tick.accepts .fast = true ∧ owed second.tick.fast.stage = [] := by
  have firstReady (outlet : Outlet) : Sink.ready (first.sink outlet) = true :=
    (firstCleared outlet).ready Nat.two_pos
  have secondReady (outlet : Outlet) : Sink.ready (second.sink outlet) = true :=
    (secondCleared outlet).ready Nat.one_pos
  have slow : Sink.ready first.slow = Sink.ready second.slow :=
    (firstReady .slow).trans (secondReady .slow).symm
  have other : Sink.ready first.other = Sink.ready second.other :=
    (firstReady .other).trans (secondReady .other).symm
  cases route with
  | slow => exact Or.inl slow
  | other => exact Or.inl other
  | both => exact Or.inl (congrArg₂ and slow other)
  | drop => exact Or.inl rfl
  | fast =>
      have stage : first.tick.fast.stage = second.tick.fast.stage :=
        (alike.fast.tick (firstReady .fast) (secondReady .fast)).stage
      by_cases settled : owed second.tick.fast.stage = []
      · right
        have room : Sink.ready first.tick.fast.inner = true := by
          refine decide_eq_true ?_
          have held := Normalizer.length_tick_le (firstCleared .fast)
          have capacity := (firstCleared .fast).room.trans_eq first.fast.capacity_tick.symm
          exact (Nat.lt_of_le_of_lt held Nat.one_lt_two).trans_le capacity
        exact ⟨rfl, Normalizer.ready_of_settled (stage ▸ settled) room, settled⟩
      · left
        exact (Normalizer.not_ready_of_owed (stage ▸ settled)).trans
          (Normalizer.not_ready_of_owed settled).symm

/-- On the fast route, what comes out does not depend on a drainage in front of a word. -/
theorem drain_deliver_fast (slow : outlets.slow.Cleared least) (other : outlets.other.Cleared least)
    (word : Word) :
    (outlets.deliver word .fast).departing =
        outlets.departing ++ (outlets.emptied.deliver word .fast).departing ∧
      (outlets.deliver word .fast).emptied = (outlets.emptied.deliver word .fast).emptied := by
  obtain ⟨departs, empties⟩ := outlets.fast.drain_push word
  constructor
  · change outlets.slow.drain.1.map _ ++ outlets.other.drain.1.map _ ++
        (Sink.push outlets.fast word).inner.drain.1.map _ = _ ++
      (outlets.slow.drain.2.drain.1.map _ ++ outlets.other.drain.2.drain.1.map _ ++
        (Sink.push outlets.fast.emptied word).inner.drain.1.map _)
    rw [departs]
    simp [departing, slow.drain, other.drain]
  · change Outlets.mk outlets.slow.drain.2 outlets.other.drain.2
        (Sink.push outlets.fast word).emptied =
      Outlets.mk outlets.slow.drain.2.drain.2 outlets.other.drain.2.drain.2
        (Sink.push outlets.fast.emptied word).emptied
    rw [slow.drain, other.drain, slow.drain, other.drain, empties]

end Outlets

end FrameRouter
