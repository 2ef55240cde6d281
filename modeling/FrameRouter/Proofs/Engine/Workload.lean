import FrameRouter.Proofs.Engine.FastPath
import FrameRouter.Proofs.Engine.Work
import Mathlib.Algebra.Order.BigOperators.Group.List

/-!
# Workload

The work that can be done in a delivery is bounded by its frames: the pieces of
work on those that have words, and the words that fill up those on the fast
path.
-/

namespace FrameRouter

open Cutting Normalization

namespace Frame

/-- The words that a network packet lacks of its declared length. -/
def missing (frame : Frame) : Nat := (extent frame.words).words - frame.length

/-- The frames that are routed to the fast path. -/
def onFastPath (config : Config) (frames : List Frame) : List Frame :=
  frames.filter fun frame => frame.route config = .fast

/-- The work on all frames, together with the words that fill them up. -/
def workload (config : Config) (frames : List Frame) : Nat :=
  ((Delivery.proper frames).map fun frame => cost frame.length).sum +
    ((onFastPath config frames).map missing).sum

theorem cost_mono {shorter longer : Nat} (le : shorter ≤ longer) : cost shorter ≤ cost longer := by
  unfold cost
  omega

/-- The frames on the fast path have words. -/
theorem onFastPath_proper (config : Config) (frames : List Frame) :
    onFastPath config (Delivery.proper frames) = onFastPath config frames := by
  unfold onFastPath Delivery.proper
  rw [List.filter_filter]
  refine List.filter_congr ?_
  intro frame _
  by_cases fast : frame.route config = .fast
  · simp [isEmpty_of_route fast]
  · simp [fast]

end Frame

/-- Frames that took their reference route are filled up as those on the fast path are. -/
theorem Passage.sum_fills {config : Config} {passages : List Passage}
    (routed : ∀ passage ∈ passages, passage.decision.route = Frame.route config ⟨passage.words⟩) :
    (passages.map Passage.fills).sum =
      ((Frame.onFastPath config (passages.map fun passage => ⟨passage.words⟩)).map
        Frame.missing).sum := by
  unfold Frame.onFastPath
  induction passages with
  | nil => rfl
  | cons passage passages ih =>
      have route := routed passage List.mem_cons_self
      have others := ih fun other membership => routed other (List.mem_cons_of_mem _ membership)
      rw [List.map_cons, List.sum_cons, others, List.map_cons, List.filter_cons]
      by_cases fast : Frame.route config ⟨passage.words⟩ = .fast
      · obtain ⟨network, _⟩ := Frame.network_of_route fast
        have filled : passage.fills = Frame.missing ⟨passage.words⟩ := by
          rw [Passage.fills, route, if_pos fast, Normalization.missing, if_pos network]
          rfl
        rw [if_pos (decide_eq_true fast), List.map_cons, List.sum_cons, filled]
      · have unfilled : passage.fills = 0 := by rw [Passage.fills, route, if_neg fast]
        rw [if_neg (by simpa using fast), unfilled, Nat.zero_add]

namespace Delivery

variable {S : Type} {holds : List Frame → S → List Word → Prop} {config : Config}
  {frames : List Frame} {delivery : Delivery S} {samples : List Sample}
  {decisions : List Decision} {ledger : Ledger}

/-- The frame in flight is the first of those that have not left, or a beginning of it. -/
theorem current_le {rest : List Frame} {current : List Sample} {remaining : List Word}
    (isSealed : ∀ frame ∈ rest, Frame.Sealed frame.words)
    (shape : Whole Word.last (current.map Sample.word) ∨ Open Word.last (current.map Sample.word))
    (nonempty : current ≠ [])
    (stream : (rest.map Frame.words).flatten = current.map Sample.word ++ remaining) :
    ∃ frame others, rest = frame :: others ∧ current.length ≤ frame.length := by
  cases rest with
  | nil =>
      have nothing := (List.append_eq_nil_iff.mp stream.symm).1
      exact absurd (List.map_eq_nil_iff.mp nothing) nonempty
  | cons frame others =>
      refine ⟨frame, others, rfl, ?_⟩
      rw [← List.length_map Sample.word]
      rcases List.append_eq_append_iff.mp stream with ⟨more, longer, _⟩ | ⟨more, shorter, _⟩
      · rw [longer] at shape ⊢
        have whole := (isSealed frame List.mem_cons_self).whole
        rw [whole.eq_nil_of_append shape, List.append_nil]
        exact Nat.le_refl _
      · change _ ≤ frame.words.length
        rw [shorter, List.length_append]
        exact Nat.le_add_right _ _

/-- All work that has been done is part of the workload. -/
theorem Accounts.work_le
    (accounts : Accounts holds config frames delivery samples decisions ledger)
    (isSealed : ∀ frame ∈ proper frames, Frame.Sealed frame.words) :
    ledger.work ≤ ((proper frames).map fun frame => Frame.cost frame.length).sum := by
  obtain ⟨rest, split, stream⟩ := accounts.ahead isSealed
  obtain ⟨bounded, blank⟩ := Ledger.begun_le accounts.balanced.flight
  have left : (ledger.passages.map fun passage => Frame.cost passage.samples.length) =
      (ledger.passages.map fun passage => (⟨passage.words⟩ : Frame)).map
        fun frame => Frame.cost frame.length := by
    rw [List.map_map]
    refine List.map_congr_left ?_
    intro passage _
    simp [Passage.words, Frame.length]
  have inFlight : ledger.begun ≤ (rest.map fun frame => Frame.cost frame.length).sum := by
    by_cases nothing : ledger.current = []
    · rw [blank nothing]
      exact Nat.zero_le _
    · have restSealed : ∀ frame ∈ rest, Frame.Sealed frame.words := by
        intro frame membership
        exact isSealed frame (by rw [split]; exact List.mem_append_right _ membership)
      obtain ⟨frame, others, rfl, within⟩ :=
        current_le restSealed (accounts.balanced.flight.words_shape nothing) nothing stream
      rw [List.map_cons, List.sum_cons]
      exact (bounded.trans (Frame.cost_mono within)).trans (Nat.le_add_right _ _)
  rw [Ledger.work, split, List.map_append, List.sum_append, left]
  exact Nat.add_le_add_left inFlight _

/-- All words that fill up frames are part of the workload. -/
theorem Accounts.fills_le
    (accounts : Accounts holds config frames delivery samples decisions ledger)
    (isSealed : ∀ frame ∈ proper frames, Frame.Sealed frame.words) :
    ledger.fills ≤ ((Frame.onFastPath config frames).map Frame.missing).sum := by
  obtain ⟨rest, split, _⟩ := accounts.ahead isSealed
  rw [Ledger.fills, Passage.sum_fills fun passage membership => accounts.route membership,
    ← Frame.onFastPath_proper config frames, split, Frame.onFastPath, Frame.onFastPath, List.filter_append,
    List.map_append, List.sum_append]
  exact Nat.le_add_right _ _

end Delivery

namespace Frame

/-- A frame cannot lack more words than a packet can declare. -/
theorem missing_le (frame : Frame) : frame.missing ≤ Header.greatestExtent := by
  have bounded := UInt16.toNat_lt (frame.words.getD 4 .zero).low
  have greatest : Header.greatestExtent = 16388 := by decide
  simp only [missing, extent, Header.Extent.ofTotalLength, Header.linkBytes]
  omega

/-- The workload of frames fits into the ticks that are allowed for them. -/
theorem workload_le_allowances (config : Config) (frames : List Frame) :
    workload config frames ≤ Session.allowances frames := by
  have every : Session.allowances frames = (frames.map Session.allowance).sum := by
    rw [Session.allowances, List.sum_eq_foldl, List.foldl_map]
  have costs : ((Delivery.proper frames).map fun frame => cost frame.length).sum ≤
      (frames.map fun frame => cost frame.length).sum :=
    (List.filter_sublist.map _).sum_le_sum fun _ _ => Nat.zero_le _
  have missings : ((onFastPath config frames).map missing).sum ≤ (frames.map missing).sum :=
    (List.filter_sublist.map _).sum_le_sum fun _ _ => Nat.zero_le _
  calc workload config frames
      ≤ (frames.map fun frame => cost frame.length).sum + (frames.map missing).sum :=
        Nat.add_le_add costs missings
    _ = (frames.map fun frame => cost frame.length + missing frame).sum :=
        (List.sum_map_add).symm
    _ ≤ (frames.map Session.allowance).sum :=
        List.sum_le_sum fun frame _ => Nat.add_le_add_left frame.missing_le _
    _ = Session.allowances frames := every.symm

end Frame

end FrameRouter
