import FrameRouter.Proofs.Sink.Feed
import FrameRouter.Proofs.Sink.Fitting
import FrameRouter.Sink.Queue

/-!
# Gained lanes

The declared end of a frame may give its terminal word more valid lanes than
were received.  Behind the normalizer everything behind the received bytes is
zero, except for the lanes gained in this way: they are shown as they are.
-/

namespace FrameRouter

open Cutting

namespace Normalization

variable {frame : List Word}

/-- The bytes that have been received with a frame: its valid lanes without the pad. -/
def receivedBytes (frame : List Word) : Nat :=
  laneCount * (frame.length - 1) + (frame.getLastD .zero).bytes.toNat - alignmentPad

/-- The lanes that only the declared end of a frame makes valid. -/
def gained (frame : List Word) : List UInt8 :=
  if IsNetwork frame ∧ frame.length = reach frame then
    ((frame.getLastD .zero).lanes.take (closingBytes frame).toNat).drop
      (frame.getLastD .zero).bytes.toNat
  else
    []

section

variable {body : List Word} {final : Word}

theorem receivedBytes_append :
    receivedBytes (body ++ [final]) =
      laneCount * body.length + final.bytes.toNat - alignmentPad := by
  rw [receivedBytes, List.length_append, List.length_singleton, Nat.add_sub_cancel,
    List.getLastD_concat]

/-- Where there is more than one word the pad lies within the first. -/
theorem pad_add_receivedBytes (long : 0 < body.length) :
    alignmentPad + receivedBytes (body ++ [final]) =
      (Frame.lanes body).length + final.bytes.toNat := by
  rw [receivedBytes_append, Frame.length_lanes]
  unfold alignmentPad laneCount
  omega

theorem length_payload_le (isOpen : Open Word.last body) (ended : final.last = true) :
    ((body ++ [final]).flatMap Word.payload).length ≤
      alignmentPad + receivedBytes (body ++ [final]) := by
  rw [receivedBytes_append, Frame.payload_of_whole isOpen ended, List.length_append,
    Frame.length_lanes, List.length_take]
  omega

/-- A frame that reaches its declared end shows only gained lanes behind the received bytes. -/
theorem drop_cut (isWhole : Whole Word.last (body ++ [final]))
    (network : IsNetwork (body ++ [final]))
    (reached : reach (body ++ [final]) ≤ (body ++ [final]).length) :
    ((cut (body ++ [final])).flatMap Word.payload).drop
        (alignmentPad + receivedBytes (body ++ [final])) = gained (body ++ [final]) := by
  have length : (body ++ [final]).length = body.length + 1 := by simp
  have long : 0 < body.length := by
    have enough := network.1
    omega
  rw [payload_cut isWhole reached, pad_add_receivedBytes long, gained]
  by_cases ends : (body ++ [final]).length = reach (body ++ [final])
  -- The end stands in the terminal word, whose lanes are cut at the declared count.
  · have covered : span (body ++ [final]) =
        (Frame.lanes body).length + (closingBytes (body ++ [final])).toNat := by
      rw [span, ← ends, length, Nat.add_sub_cancel, Frame.length_lanes]
    have lanes : Frame.lanes (body ++ [final]) = Frame.lanes body ++ final.lanes := by
      simp [Frame.lanes]
    rw [if_pos ⟨network, ends⟩, covered, lanes, List.take_length_add_append,
      List.drop_length_add_append, List.getLastD_concat]
  -- The end stands in front of the terminal word, and nothing of that word is shown.
  · have earlier : span (body ++ [final]) ≤ laneCount * body.length :=
      (span_le _).trans (Nat.mul_le_mul_left _ (by omega))
    rw [if_neg fun both => ends both.2, List.drop_eq_nil_of_le]
    rw [List.length_take, Frame.length_lanes body]
    omega

end

/-- Behind the received bytes a frame shows the gained lanes and then zeros. -/
theorem drop_whole (isWhole : Whole Word.last frame) :
    ∃ zeros, (Frame.toEthernet ⟨whole frame⟩).drop (receivedBytes frame) =
      gained frame ++ List.replicate zeros 0 := by
  obtain ⟨body, final, rfl, isOpen, ended⟩ := isWhole
  have isWhole : Whole Word.last (body ++ [final]) := isOpen.whole ended
  have bounded := length_payload_le isOpen ended
  rw [Frame.toEthernet, List.drop_drop]
  by_cases network : IsNetwork (body ++ [final])
  · rw [whole, if_pos network]
    by_cases reached : reach (body ++ [final]) ≤ (body ++ [final]).length
    · rw [if_pos reached, drop_cut isWhole network reached]
      exact ⟨0, (List.append_nil _).symm⟩
    · have elsewhere : ¬(body ++ [final]).length = reach (body ++ [final]) := by omega
      refine ⟨span (body ++ [final]) - (alignmentPad + receivedBytes (body ++ [final])), ?_⟩
      rw [if_neg reached, payload_extend isWhole network reached, drop_takeD _ bounded, gained,
        if_neg fun ends => elsewhere ends.2, List.nil_append]
  · refine ⟨0, ?_⟩
    rw [whole, if_neg network, payload_strip, List.drop_eq_nil_of_le bounded, gained,
      if_neg fun ends => network ends.1]
    rfl

end Normalization

namespace Normalizing.Accounts

open Normalization

variable {stage : Normalizing} {words passed : List Word}

/-- With the words owed the words passed on begin with the normalised frames. -/
theorem begins (accounts : stage.Accounts words passed) :
    (complete Word.last words).map whole <+: complete Word.last (passed ++ owed stage) := by
  obtain ⟨_, isWhole, _⟩ := split_stream Word.last words
  rw [accounts.account, List.flatMap_def]
  refine prefix_complete ?_ _
  intro sent membership
  obtain ⟨source, listed, rfl⟩ := List.mem_map.mp membership
  exact whole_whole (isWhole source listed)

/-- A frame that has been passed on whole is the normalised one in the same place. -/
theorem whole_eq (accounts : stage.Accounts words passed) {place : Nat}
    {frame sent : List Word} (taken : (complete Word.last words)[place]? = some frame)
    (left : (complete Word.last passed)[place]? = some sent) : sent = whole frame := by
  obtain ⟨more, ours⟩ := complete_prefix Word.last passed (owed stage)
  obtain ⟨rest, theirs⟩ := accounts.begins
  have here := congrArg (fun frames => frames[place]?) (ours.trans theirs.symm)
  obtain ⟨takenHere, _⟩ := List.getElem?_eq_some_iff.mp taken
  obtain ⟨leftHere, _⟩ := List.getElem?_eq_some_iff.mp left
  rw [List.getElem?_append_left leftHere, List.getElem?_append_left (by simpa using takenHere),
    left, List.getElem?_map, taken] at here
  exact Option.some.inj here

end Normalizing.Accounts

namespace Feed

open Normalization

variable {S : Type} [Sink S]

/-- What the sink behind shows of the frames taken, beyond the bytes received with them. -/
structure Exposure (feed : Feed (Observed S)) : Prop where
  /-- Unless words are owed, every whole frame has been delivered. -/
  delivered : owed feed.normalizer.stage = [] →
    (complete Word.last feed.taken).length ≤
      (Frame.ofStream feed.normalizer.inner.words).length
  behind : ∀ (place : Nat) (frame : List Word) (delivered : Frame),
    (complete Word.last feed.taken)[place]? = some frame →
      (Frame.ofStream feed.normalizer.inner.words)[place]? = some delivered →
        ∃ zeros, delivered.toEthernet.drop (receivedBytes frame) =
          gained frame ++ List.replicate zeros 0
  /-- The bytes that were not received are all zero exactly if the gained lanes are. -/
  concealed : ∀ (place : Nat) (frame : List Word) (delivered : Frame),
    (complete Word.last feed.taken)[place]? = some frame →
      (Frame.ofStream feed.normalizer.inner.words)[place]? = some delivered →
        ((∀ byte ∈ delivered.toEthernet.drop (receivedBytes frame), byte = 0) ↔
          ∀ lane ∈ gained frame, lane = 0)

/-- Whatever words are offered, frames show what they gain, and otherwise only zeros. -/
theorem exposure (inner : S) (handlings : List (Handling S)) :
    (observed inner handlings).Exposure := by
  obtain ⟨passed, ⟨words, _⟩, accounts⟩ := observed_normalizes inner handlings
  generalize observed inner handlings = feed at *
  subst words
  have behind : ∀ (place : Nat) (frame : List Word) (delivered : Frame),
      (complete Word.last feed.taken)[place]? = some frame →
        (Frame.ofStream feed.normalizer.inner.words)[place]? = some delivered →
          ∃ zeros, delivered.toEthernet.drop (receivedBytes frame) =
            gained frame ++ List.replicate zeros 0 := by
    intro place frame delivered taken left
    obtain ⟨_, isWhole, _⟩ := split_stream Word.last feed.taken
    have frameWhole := isWhole frame (List.mem_of_getElem? taken)
    rw [Frame.ofStream_eq, List.getElem?_map] at left
    obtain ⟨sent, found, rfl⟩ := Option.map_eq_some_iff.mp left
    rw [accounts.whole_eq taken found, Frame.toEthernet_ofWords (whole_whole frameWhole)]
    exact drop_whole frameWhole
  refine ⟨?_, behind, ?_⟩
  · intro settled
    have begins := accounts.begins
    rw [settled, List.append_nil] at begins
    simpa [Frame.ofStream_eq] using begins.length_le
  · intro place frame delivered taken left
    obtain ⟨zeros, shown⟩ := behind place frame delivered taken left
    rw [shown]
    constructor
    · intro clear lane membership
      exact clear lane (List.mem_append_left _ membership)
    · intro clear byte membership
      rcases List.mem_append.mp membership with lane | filled
      · exact clear byte lane
      · exact List.eq_of_mem_replicate filled

/-- A packet that is declared one byte longer than received, with data left in that place. -/
def stale : List Word :=
  [.full 0, .full 0, .full 0, .full 0x0800, .full 0x45000006, .terminal 0x05ab0000 1]

/-- The byte that was not received is shown. -/
theorem exposed_stale :
    let feed := observed (Queue.ofDepth 16) (stale.map .offer)
    Frame.isWellFormed ⟨stale⟩ = true ∧ complete Word.last feed.taken = [stale] ∧
      (Frame.ofStream feed.normalizer.inner.words).length = 1 ∧
      ¬∀ delivered ∈ Frame.ofStream feed.normalizer.inner.words,
        ∀ byte ∈ delivered.toEthernet.drop (receivedBytes stale), byte = 0 := by
  decide +kernel

end Feed

end FrameRouter
