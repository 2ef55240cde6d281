import FrameRouter.Engine.Worker
import FrameRouter.Proofs.Engine.Refinement

/-!
# Reception

A source that is given frames from time to time, and whose words are taken one
by one, knows what is ahead: frames that have not been taken to their end, of
which the front one may have been begun.  What has been taken are the frames
in front of these.  A worker never gives its source more than two frames ahead.
-/

namespace FrameRouter

open Cutting

namespace Source

/-- The frames that have not been taken to their end. -/
def frames (source : Source) : List Frame := source.front?.toList ++ source.waiting

/--
The frames that were given to a source are those that have been taken to their
end and those ahead, and the words taken are those of the former and the first
ones of the front frame.  Frames without words are passed over.
-/
structure Fed (source : Source) (given past : List Frame) (words : List Word) : Prop where
  orderly : source.Orderly
  begun : source.upcoming = [] → source.taken = []
  given : Delivery.proper given = past ++ source.frames
  words : words = past.flatMap Frame.words ++ source.taken.reverse

variable {source : Source} {given past : List Frame} {words : List Word}

theorem fed_empty : empty.Fed [] [] [] :=
  ⟨⟨fun _ => rfl, by simp [empty]⟩, fun _ => rfl, rfl, rfl⟩

theorem length_frames (source : Source) : source.frames.length = source.pending := by
  unfold frames front? pending
  cases source.upcoming <;> simp

/-- A frame that is given waits behind those ahead. -/
theorem Fed.push (fed : source.Fed given past words) (frame : Frame) :
    (source.push frame).Fed (given ++ [frame]) past words := by
  have orderly := fed.orderly.push frame
  obtain ⟨⟨settled, _⟩, begun, split, taken⟩ := fed
  by_cases empty : frame.isEmpty = true
  · have same : source.push frame = source := if_pos empty
    have nothing : Delivery.proper [frame] = [] := by simp [Delivery.proper, empty]
    rw [same] at orderly ⊢
    refine ⟨orderly, begun, ?_, taken⟩
    rw [Delivery.proper_append, nothing, List.append_nil, split]
  · have further : Delivery.proper [frame] = [frame] := by simp [Delivery.proper, empty]
    have filled : frame.words ≠ [] := fun nothing => empty (List.isEmpty_iff.mpr nothing)
    by_cases drained : source.upcoming = []
    · have pushed : source.push frame = { source with upcoming := frame.words } := by
        simp [Source.push, empty, drained]
      have ahead : source.frames = [] := by simp [frames, front?, drained, settled drained]
      rw [pushed] at orderly ⊢
      refine ⟨orderly, fun nothing => absurd nothing filled, ?_, taken⟩
      rw [Delivery.proper_append, further, split, ahead]
      simp [frames, front?, filled, begun drained, settled drained]
    · have pushed : source.push frame = { source with waiting := source.waiting ++ [frame] } := by
        simp [Source.push, empty, drained]
      rw [pushed] at orderly ⊢
      refine ⟨orderly, begun, ?_, taken⟩
      rw [Delivery.proper_append, further, split]
      simp [frames, front?]

/-- The word that is taken is the next one of the front frame. -/
theorem Fed.advance (fed : source.Fed given past words) {word : Word}
    (presented : source.current = some word) :
    ∃ further, source.advance.Fed given further (words ++ [word]) := by
  have orderly := fed.orderly.advance
  obtain ⟨⟨_, filled⟩, begun, split, taken⟩ := fed
  obtain ⟨before, upcoming, waiting⟩ := source
  obtain ⟨rest, rfl⟩ := List.head?_eq_some_iff.mp presented
  cases rest with
  | nil =>
      refine ⟨past ++ [⟨before.reverse ++ [word]⟩], orderly, ?_, ?_, ?_⟩
      · cases waiting <;> exact fun _ => rfl
      · cases waiting with
        | nil => simpa [Source.advance, frames, front?, Source.empty] using split
        | cons frame others =>
            have nonempty : frame.words ≠ [] := filled frame List.mem_cons_self
            simpa [Source.advance, frames, front?, nonempty] using split
      · cases waiting <;> simp [Source.advance, Source.empty, taken]
  | cons next rest =>
      refine ⟨past, orderly, ?_, ?_, ?_⟩
      · intro nothing
        cases nothing
      · simpa [Source.advance, frames, front?] using split
      · simp [Source.advance, taken]

/-- The words taken and those that remain are those of the frames given. -/
theorem Fed.stream (fed : source.Fed given past words) :
    words ++ source.remaining = given.flatMap Frame.words := by
  have front : source.front?.toList.flatMap Frame.words =
      source.taken.reverse ++ source.upcoming := by
    unfold front?
    cases upcoming : source.upcoming with
    | nil => simp [fed.begun upcoming]
    | cons word rest => simp
  rw [← Delivery.flatten_proper, ← List.flatMap_def, fed.given, fed.words, remaining, frames,
    List.flatMap_append, List.flatMap_append, front]
  simp

/-- Of whole frames, those taken to their end are the complete ones of the words taken. -/
theorem Fed.complete (fed : source.Fed given past words)
    (isSealed : ∀ frame ∈ Delivery.proper given, Frame.Sealed frame.words) :
    Cutting.complete Word.last words = past.map Frame.words ∧
      remainder Word.last words = source.taken.reverse := by
  have whole : ∀ frame ∈ past.map Frame.words, Whole Word.last frame := by
    intro words membership
    obtain ⟨frame, listed, rfl⟩ := List.mem_map.mp membership
    exact (isSealed frame (by rw [fed.given]; exact List.mem_append_left _ listed)).whole
  have isOpen : Open Word.last source.taken.reverse := by
    by_cases drained : source.upcoming = []
    · rw [fed.begun drained]
      exact Open.nil
    · have front : source.front? = some ⟨source.taken.reverse ++ source.upcoming⟩ := by
        simp [front?, drained]
      refine Whole.isOpen_of_append ((isSealed ⟨_⟩ ?_).whole) drained
      rw [fed.given, frames, front]
      simp
  rw [fed.words, List.flatMap_def]
  exact complete_remainder whole isOpen

theorem pending_of_isEmpty (isEmpty : source.isEmpty = true) : source.pending = 0 := by
  obtain ⟨upcoming, waiting⟩ := Bool.and_eq_true_iff.mp isEmpty
  simp [pending, upcoming, List.isEmpty_iff.mp waiting]

theorem pending_push_le (source : Source) (frame : Frame) :
    (source.push frame).pending ≤ source.pending + 1 := by
  unfold push pending
  split
  · exact Nat.le_succ _
  · split
    · split <;> simp
    · simp

theorem pending_advance_le (source : Source) : source.advance.pending ≤ source.pending := by
  obtain ⟨before, upcoming, waiting⟩ := source
  rcases upcoming with _ | ⟨word, _ | ⟨next, rest⟩⟩
  · exact Nat.le_refl _
  · cases waiting with
    | nil => simp [Source.advance, pending, empty]
    | cons frame others =>
        simp [Source.advance, pending]
        split <;> omega
  · exact Nat.le_refl _

end Source

/-- Frames are received in order, and never more than fit ahead. -/
theorem Worker.prefetchFrom_spec {source : Source} {given past : List Frame} {words : List Word}
    (fed : source.Fed given past words) (channel : List Frame)
    (within : source.pending ≤ prefetchLimit) :
    ∃ frames, channel = frames ++ (prefetchFrom source channel).2 ∧
      (prefetchFrom source channel).1.Fed (given ++ frames) past words ∧
      (prefetchFrom source channel).1.pending ≤ prefetchLimit := by
  induction channel generalizing source given with
  | nil => exact ⟨[], rfl, by simpa [prefetchFrom] using fed, within⟩
  | cons frame rest ih =>
      unfold prefetchFrom
      split
      · rename_i few
        have room := (source.pending_push_le frame).trans few
        obtain ⟨frames, split, fed, pending⟩ := ih (fed.push frame) room
        refine ⟨frame :: frames, by rw [List.cons_append, ← split], ?_, pending⟩
        rw [← List.singleton_append, ← List.append_assoc]
        exact fed
      · exact ⟨[], rfl, by simpa using fed, within⟩

end FrameRouter
