import FrameRouter.Frame.Reassembly
import FrameRouter.Proofs.Frame.Cutting

/-!
# Sealed frames

The words of a frame are sealed: full and unmarked inside, marked at the end.
A receiver puts a stream of sealed frames back together into these frames.
-/

namespace FrameRouter

open Cutting

namespace Frame

/-- Words as they stand in a frame that is not empty. -/
def Sealed (words : List Word) : Prop :=
  ∃ body final, words = body ++ [final] ∧
    (∀ word ∈ body, word.bytes = 4 ∧ word.last = false) ∧ final.last = true

theorem markEnd_append (body : List Word) (final : Word) :
    markEnd (body ++ [final]) =
      body.map (fun word => { word with bytes := 4, last := false }) ++
        [{ final with last := true }] := by
  induction body with
  | nil => rfl
  | cons first rest ih =>
      cases rest with
      | nil => rfl
      | cons second rest =>
          simp only [List.cons_append, List.map_cons] at ih ⊢
          rw [markEnd, ih]

/-- Sealing a word list seals it. -/
theorem sealed_markEnd {words : List Word} (nonempty : words ≠ []) : Sealed (markEnd words) := by
  obtain ⟨body, final, rfl⟩ := (List.eq_nil_or_concat' words).resolve_left nonempty
  refine ⟨_, _, markEnd_append body final, ?_, rfl⟩
  intro word membership
  obtain ⟨source, _, rfl⟩ := List.mem_map.mp membership
  exact ⟨rfl, rfl⟩

namespace Sealed

variable {words : List Word}

theorem whole (isSealed : Sealed words) : Whole Word.last words := by
  obtain ⟨body, final, rfl, inside, ended⟩ := isSealed
  exact ⟨body, final, rfl, fun word membership => (inside word membership).2, ended⟩

theorem markEnd_eq (isSealed : Sealed words) : markEnd words = words := by
  obtain ⟨body, final, rfl, inside, ended⟩ := isSealed
  have same : body.map (fun word => { word with bytes := 4, last := false }) = body := by
    refine (List.map_congr_left ?_).trans (List.map_id body)
    intro word membership
    obtain ⟨full, unmarked⟩ := inside word membership
    rw [← full, ← unmarked]
    rfl
  rw [markEnd_append, same, ← ended]

theorem ofWords_eq (isSealed : Sealed words) : ofWords words = ⟨words⟩ := by
  rw [ofWords, isSealed.markEnd_eq]

end Sealed

end Frame

namespace Reassembly

variable {held words rest : List Word}

/-- A receiver goes on with what it holds. -/
theorem run_append (held words rest : List Word) :
    run held (words ++ rest) =
      ⟨(run held words).frames ++ (run (run held words).held rest).frames,
        (run (run held words).held rest).held⟩ := by
  induction words generalizing held with
  | nil => rfl
  | cons word words ih =>
      rw [List.cons_append, run, run]
      split
      · rw [ih]
        rfl
      · rw [ih]

theorem run_open (isOpen : Open Word.last words) :
    run held words = ⟨[], words.reverse ++ held⟩ := by
  induction words generalizing held with
  | nil => rfl
  | cons word words ih =>
      have unended : word.last = false := isOpen word List.mem_cons_self
      have further : Open Word.last words := fun other membership =>
        isOpen other (List.mem_cons_of_mem word membership)
      rw [run, unended, if_neg (by decide), ih further]
      simp

theorem run_whole (whole : Whole Word.last words) : run [] words = ⟨[.ofWords words], []⟩ := by
  obtain ⟨body, final, rfl, isOpen, ended⟩ := whole
  rw [run_append, run_open isOpen]
  simp [run, ended]

end Reassembly

/-- The complete frames of a stream are its whole pieces, each of them sealed. -/
theorem Frame.ofStream_eq (words : List Word) :
    ofStream words = (complete Word.last words).map ofWords := by
  obtain ⟨split, isWhole, isOpen⟩ := split_stream Word.last words
  generalize complete Word.last words = frames at *
  generalize remainder Word.last words = rest at *
  have run : Reassembly.run [] (frames.flatten ++ rest) =
      ⟨frames.map ofWords, rest.reverse⟩ := by
    clear split
    induction frames with
    | nil =>
        rw [List.flatten_nil, List.nil_append, Reassembly.run_open isOpen, List.append_nil]
        rfl
    | cons frame frames ih =>
        have first : Whole Word.last frame := isWhole frame List.mem_cons_self
        have further := ih fun other membership =>
          isWhole other (List.mem_cons_of_mem frame membership)
        rw [List.flatten_cons, List.append_assoc, Reassembly.run_append,
          Reassembly.run_whole first, further]
        rfl
  rw [ofStream, split, run]

/-- The frames of a stream of sealed frames are these frames. -/
theorem Frame.ofStream_flatMap {frames : List Frame}
    (isSealed : ∀ frame ∈ frames, Sealed frame.words) :
    ofStream (frames.flatMap Frame.words) = frames := by
  have isWhole : ∀ words ∈ frames.map Frame.words, Whole Word.last words := by
    intro words membership
    obtain ⟨frame, listed, rfl⟩ := List.mem_map.mp membership
    exact (isSealed frame listed).whole
  have cut := (complete_remainder isWhole Open.nil).1
  rw [List.append_nil, ← List.flatMap_def] at cut
  rw [ofStream_eq, cut, List.map_map]
  refine (List.map_congr_left ?_).trans (List.map_id frames)
  intro frame listed
  exact (isSealed frame listed).ofWords_eq

end FrameRouter
