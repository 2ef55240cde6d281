import FrameRouter.Engine.Source
import Mathlib.Data.List.Induction

/-!
# Feeding

The words that a source has still to present are those of its frames, in
order; moving past the presented word takes exactly this word away.
-/

namespace FrameRouter

namespace Source

variable {source : Source}

/-- The presented word is the first one that remains. -/
theorem remaining_advance {word : Word} (presented : source.current = some word) :
    source.remaining = word :: source.advance.remaining := by
  obtain ⟨taken, upcoming, waiting⟩ := source
  obtain ⟨rest, rfl⟩ := List.head?_eq_some_iff.mp presented
  cases rest with
  | nil =>
      cases waiting with
      | nil => rfl
      | cons frame frames => rfl
  | cons next rest => rfl

theorem advance_of_none (nothing : source.current = none) : source.advance = source := by
  obtain ⟨taken, upcoming, waiting⟩ := source
  cases upcoming with
  | nil => rfl
  | cons => cases nothing

theorem remaining_of_isEmpty (isEmpty : source.isEmpty = true) : source.remaining = [] := by
  obtain ⟨upcoming, waiting⟩ := Bool.and_eq_true_iff.mp isEmpty
  simp [remaining, List.isEmpty_iff.mp upcoming, List.isEmpty_iff.mp waiting]

/-- No frame waits behind a source that presents nothing. -/
def Settled (source : Source) : Prop := source.upcoming = [] → source.waiting = []

/-- A further frame remains behind the others. -/
theorem remaining_push (settled : source.Settled) (frame : Frame) :
    (source.push frame).remaining = source.remaining ++ frame.words ∧
      (source.push frame).Settled := by
  unfold push
  split
  · rename_i empty
    have nothing : frame.words = [] := List.isEmpty_iff.mp empty
    rw [nothing, List.append_nil]
    exact ⟨rfl, settled⟩
  · rename_i notEmpty
    split
    · rename_i drained
      have upcoming : source.upcoming = [] := List.isEmpty_iff.mp drained
      have waiting := settled upcoming
      simp [remaining, Settled, upcoming, waiting]
    · rename_i presenting
      have upcoming : source.upcoming ≠ [] := fun none => presenting (List.isEmpty_iff.mpr none)
      simp [remaining, Settled, upcoming]

/-- The words of the frames that a fresh source was given remain. -/
theorem remaining_pushAll (frames : List Frame) :
    (empty.pushAll frames).remaining = frames.flatMap Frame.words := by
  have general : (empty.pushAll frames).remaining = frames.flatMap Frame.words ∧
      (empty.pushAll frames).Settled := by
    unfold pushAll
    induction frames using List.reverseRecOn with
    | nil => exact ⟨rfl, fun _ => rfl⟩
    | append_singleton frames frame ih =>
        obtain ⟨words, settled⟩ := ih
        obtain ⟨further, stillSettled⟩ := remaining_push settled frame
        rw [List.foldl_append, List.flatMap_append, List.flatMap_singleton, ← words]
        exact ⟨further, stillSettled⟩
  exact general.1

/-- No frame waits behind a source that presents nothing, and every frame that waits has words. -/
structure Orderly (source : Source) : Prop where
  settled : source.Settled
  filled : ∀ frame ∈ source.waiting, frame.words ≠ []

theorem Orderly.push (orderly : source.Orderly) (frame : Frame) : (source.push frame).Orderly where
  settled := (remaining_push orderly.settled frame).2
  filled := by
    unfold Source.push
    split
    · exact orderly.filled
    · rename_i notEmpty
      split
      · exact orderly.filled
      · intro waiting membership
        rcases List.mem_append.mp membership with earlier | this
        · exact orderly.filled waiting earlier
        · rw [List.mem_singleton.mp this]
          exact fun nothing => notEmpty (List.isEmpty_iff.mpr nothing)

theorem orderly_pushAll (frames : List Frame) : (empty.pushAll frames).Orderly := by
  have initial : empty.Orderly := ⟨fun _ => rfl, by simp [empty]⟩
  exact List.foldlRecOn frames Source.push (motive := Orderly) initial
    fun _ orderly frame _ => orderly.push frame

theorem Orderly.advance (orderly : source.Orderly) : source.advance.Orderly := by
  obtain ⟨settled, filled⟩ := orderly
  obtain ⟨taken, upcoming, waiting⟩ := source
  rcases upcoming with _ | ⟨word, _ | ⟨next, rest⟩⟩
  · exact ⟨settled, filled⟩
  · cases waiting with
    | nil => exact ⟨fun _ => rfl, by simp [Source.advance, empty]⟩
    | cons frame frames =>
        refine ⟨?_, ?_⟩
        · intro nothing
          exact absurd nothing (filled frame List.mem_cons_self)
        · intro other membership
          exact filled other (List.mem_cons_of_mem frame membership)
  · refine ⟨?_, filled⟩
    intro nothing
    cases nothing

/-- An orderly source that presents nothing is empty. -/
theorem Orderly.isEmpty (orderly : source.Orderly) (nothing : source.current = none) :
    source.isEmpty = true := by
  have upcoming : source.upcoming = [] := List.head?_eq_none_iff.mp nothing
  simp [Source.isEmpty, upcoming, orderly.settled upcoming]

end Source

end FrameRouter
