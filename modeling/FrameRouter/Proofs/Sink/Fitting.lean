import FrameRouter.Proofs.Frame.Packing
import FrameRouter.Proofs.Sink.Normalization

/-!
# Fitted packets

Behind the normalizer an Ethernet packet has as many bytes as its network
header declares: padding behind the declared end is gone, and missing bytes are
zero.  The first five words are always kept, so a packet that declares a total
length of zero keeps its first eighteen bytes.
-/

namespace FrameRouter

open Cutting

namespace Header

/-- The total length that an Ethernet packet declares, most significant byte first. -/
def declaredLength (packet : List UInt8) : Nat :=
  (packet.getD 16 0).toNat * 256 + (packet.getD 17 0).toNat

namespace Extent

theorem words_ofTotalLength (total : UInt16) :
    5 ≤ (ofTotalLength total).words ↔ total.toNat ≠ 0 := by
  simp only [ofTotalLength, linkBytes]
  omega

theorem toNat_tail_ofTotalLength (total : UInt16) :
    (ofTotalLength total).tail.toNat =
      if (2 + linkBytes + total.toNat) % 4 = 0 then 4
      else (2 + linkBytes + total.toNat) % 4 := by
  simp only [ofTotalLength]
  split
  · rfl
  · rw [UInt8.toNat_ofNat']
    omega

theorem tail_ofTotalLength (total : UInt16) : (ofTotalLength total).tail.toNat ≤ laneCount := by
  rw [toNat_tail_ofTotalLength, laneCount]
  split <;> omega

/-- The extent of a packet covers the pad, the link header and the total length. -/
theorem lanes_ofTotalLength (total : UInt16) :
    laneCount * ((ofTotalLength total).words - 1) + (ofTotalLength total).tail.toNat =
      alignmentPad + linkBytes + total.toNat := by
  rw [toNat_tail_ofTotalLength]
  simp only [ofTotalLength, laneCount, alignmentPad]
  by_cases aligned : (2 + linkBytes + total.toNat) % 4 = 0
  · rw [if_pos aligned]
    omega
  · rw [if_neg aligned]
    omega

end Extent

end Header

namespace Normalization

variable {frame : List Word}

/-- The valid lanes of the word in which a frame is cut. -/
def closingBytes (frame : List Word) : UInt8 :=
  if 5 ≤ (extent frame).words then (extent frame).tail else 4

/-- The bytes of a network packet behind the normalizer, the pad included. -/
def span (frame : List Word) : Nat := laneCount * (reach frame - 1) + (closingBytes frame).toNat

theorem closingBytes_le (frame : List Word) : (closingBytes frame).toNat ≤ laneCount := by
  unfold closingBytes
  split
  · exact Header.Extent.tail_ofTotalLength _
  · decide

theorem span_le (frame : List Word) : span frame ≤ laneCount * reach frame := by
  have short := closingBytes_le frame
  unfold span reach
  unfold laneCount at *
  omega

/-- The span is the declared length behind pad and link header, or five words for length zero. -/
theorem span_eq (frame : List Word) :
    span frame =
      if (frame.getD 4 .zero).low.toNat = 0 then laneCount * 5
      else alignmentPad + Header.linkBytes + (frame.getD 4 .zero).low.toNat := by
  have declared := Header.Extent.words_ofTotalLength (frame.getD 4 .zero).low
  have covered := Header.Extent.lanes_ofTotalLength (frame.getD 4 .zero).low
  unfold span reach closingBytes extent
  by_cases none : (frame.getD 4 .zero).low.toNat = 0
  · have early : ¬5 ≤ (Header.Extent.ofTotalLength (frame.getD 4 .zero).low).words := by
      rw [declared]
      exact fun some => some none
    rw [if_pos none, if_neg early, Nat.max_eq_right (Nat.le_of_not_le early)]
    rfl
  · have late := declared.mpr none
    rw [if_neg none, if_pos late, Nat.max_eq_left late]
    exact covered

theorem payload_strip (words : List Word) :
    (words.map strip).flatMap Word.payload = words.flatMap Word.payload := by
  rw [List.flatMap_map]
  rfl

theorem payload_fill (owed : Nat) {tail : UInt8} (within : tail.toNat ≤ laneCount) :
    (fill owed tail).flatMap Word.payload =
      List.replicate (laneCount * (owed - 1) + tail.toNat) 0 := by
  have inside : (List.replicate (owed - 1) (Word.full 0)).flatMap Word.payload =
      List.replicate (laneCount * (owed - 1)) 0 := by
    induction owed - 1 with
    | zero => rfl
    | succ count ih =>
        rw [List.replicate_succ, List.flatMap_cons, ih, Nat.mul_succ, Nat.add_comm,
          List.replicate_add]
        rfl
  have final : (Word.terminal 0 tail).payload = List.replicate tail.toNat 0 := by
    have lanes : (Word.terminal 0 tail).lanes = List.replicate laneCount 0 := by
      simp [Word.lanes, Word.terminal, laneCount]
    rw [Word.payload, lanes, List.take_replicate]
    simp [Word.terminal, within]
  rw [fill, List.flatMap_append, inside, List.flatMap_singleton, final, List.replicate_add]

/-- A frame that reaches its end keeps its lanes up to there. -/
theorem payload_cut (isWhole : Whole Word.last frame) (reached : reach frame ≤ frame.length) :
    (cut frame).flatMap Word.payload = (Frame.lanes frame).take (span frame) := by
  have place : reach frame - 1 < frame.length := by
    unfold reach at *
    omega
  -- In front of its end the frame has no terminal word.
  have isOpen : Open Word.last (frame.take (reach frame - 1)) := by
    have split := List.take_append_drop (reach frame - 1) frame
    rw [← split] at isWhole
    exact isWhole.isOpen_of_append (by simpa using place)
  have closing : (closing frame).payload =
      (frame.getD (reach frame - 1) .zero).lanes.take (closingBytes frame).toNat := rfl
  have split : frame = frame.take (reach frame - 1) ++ (frame.getD (reach frame - 1) .zero) ::
      frame.drop (reach frame) := by
    have next : reach frame - 1 + 1 = reach frame := by
      unfold reach
      omega
    have rest := List.drop_eq_getElem_cons place
    rw [next] at rest
    rw [List.getD_eq_getElem _ _ place, ← rest, List.take_append_drop]
  have front : (Frame.lanes (frame.take (reach frame - 1))).length =
      laneCount * (reach frame - 1) := by
    rw [Frame.length_lanes, List.length_take, Nat.min_eq_left place.le]
  calc (cut frame).flatMap Word.payload
      = Frame.lanes (frame.take (reach frame - 1)) ++
          (frame.getD (reach frame - 1) .zero).lanes.take (closingBytes frame).toNat := by
        rw [cut, List.flatMap_append, payload_strip, Frame.payload_of_open isOpen,
          List.flatMap_singleton, closing]
    _ = (Frame.lanes (frame.take (reach frame - 1)) ++
          ((frame.getD (reach frame - 1) .zero).lanes ++
            Frame.lanes (frame.drop (reach frame)))).take (span frame) := by
        rw [span, ← front, List.take_length_add_append, List.take_append_of_le_length]
        rw [Word.length_lanes]
        exact closingBytes_le frame
    _ = (Frame.lanes frame).take (span frame) := by
        have lanes := congrArg Frame.lanes split
        rw [Frame.lanes, Frame.lanes, List.flatMap_append, List.flatMap_cons] at lanes
        rw [Frame.lanes, Frame.lanes, Frame.lanes, lanes]

/-- A frame that ends early keeps its valid bytes, and zeros follow up to its end. -/
theorem payload_extend (isWhole : Whole Word.last frame) (network : IsNetwork frame)
    (unreached : ¬reach frame ≤ frame.length) :
    (extend frame).flatMap Word.payload = (frame.flatMap Word.payload).takeD (span frame) 0 := by
  have long := network.1
  have declared : 5 ≤ (extent frame).words ∧ frame.length < (extent frame).words := by
    unfold reach at unreached
    omega
  have covered : span frame = laneCount * (frame.length - 1) + (laneCount +
      (laneCount * ((extent frame).words - frame.length - 1) + (extent frame).tail.toNat)) := by
    unfold span closingBytes reach laneCount
    rw [if_pos declared.1]
    omega
  have tail : (extent frame).tail.toNat ≤ laneCount := Header.Extent.tail_ofTotalLength _
  obtain ⟨body, final, rfl, isOpen, ended⟩ := isWhole
  have reopened : (reopen final).payload = (final.lanes.take final.bytes.toNat).takeD laneCount 0 :=
    Word.lanes_keep final final.bytes.toNat _ _ _
  have valid : (final.lanes.take final.bytes.toNat).length ≤ laneCount := by
    rw [List.length_take]
    exact Nat.min_le_right _ _
  rw [covered, extend, List.dropLast_concat, List.getLastD_concat, List.flatMap_append,
    payload_strip, Frame.payload_of_open isOpen, List.flatMap_cons, reopened, payload_fill _ tail,
    takeD_append_replicate valid, Frame.payload_of_whole isOpen ended, List.length_append,
    List.length_singleton, Nat.add_sub_cancel, ← Frame.length_lanes, takeD_append_add]

/-- Behind the normalizer a network packet has the bytes of its span. -/
theorem payload_whole (isSealed : Frame.Sealed frame) (clean : ∀ word ∈ frame, word.Clean)
    (network : IsNetwork frame) :
    (whole frame).flatMap Word.payload =
      (frame.flatMap Word.payload).takeD (span frame) 0 := by
  rw [whole, if_pos network]
  split
  · rename_i reached
    have within : span frame ≤ laneCount * frame.length :=
      (span_le frame).trans (Nat.mul_le_mul_left _ reached)
    rw [payload_cut isSealed.whole reached, isSealed.lanes_eq clean, take_takeD within]
  · rename_i unreached
    exact payload_extend isSealed.whole network unreached

/-- Behind the normalizer no word carries an annotation. -/
theorem side_whole (frame : List Word) : ∀ word ∈ whole frame, word.side = 0 := by
  have stripped (words : List Word) : ∀ word ∈ words.map strip, word.side = 0 := by
    intro word membership
    obtain ⟨source, _, rfl⟩ := List.mem_map.mp membership
    rfl
  intro word membership
  unfold whole at membership
  split at membership
  · split at membership
    · rcases List.mem_append.mp membership with before | final
      · exact stripped _ word before
      · rw [List.mem_singleton.mp final]
        rfl
    · rcases List.mem_append.mp membership with before | behind
      · exact stripped _ word before
      · rcases List.mem_cons.mp behind with rfl | filled
        · rfl
        · rcases List.mem_append.mp filled with zero | final
          · rw [List.eq_of_mem_replicate zero]
            rfl
          · rw [List.mem_singleton.mp final]
            rfl
  · exact stripped _ word membership

end Normalization

namespace Frame

/-- What a frame behind the normalizer is for an Ethernet packet in front of it. -/
structure Fitted (packet : List UInt8) (frame : Frame) : Prop where
  wellFormed : frame.isWellFormed = true
  unannotated : ∀ word ∈ frame.words, word.side = 0
  bytes : frame.toEthernet =
    if Header.declaredLength packet = 0 then packet.take 18
    else packet.takeD (Header.linkBytes + Header.declaredLength packet) 0
  /-- Bytes behind the declared end are gone, whatever they are. -/
  padding : ∀ datagram pad, packet = datagram ++ pad → Header.declaredLength packet ≠ 0 →
    datagram.length = Header.linkBytes + Header.declaredLength packet →
    frame.toEthernet = datagram
  /-- Bytes missing at the end are zero. -/
  loss : ∀ missing,
    packet.length + missing = Header.linkBytes + Header.declaredLength packet →
    frame.toEthernet = packet ++ List.replicate missing 0

variable (packet : List UInt8) (side : UInt8)

/-- The fifth word of a packet holds its declared length. -/
theorem low_ofEthernet (long : 5 ≤ (ofEthernet packet side).words.length) :
    ((ofEthernet packet side).words.getD 4 .zero).low.toNat = Header.declaredLength packet := by
  have lanes := (sealed_ofEthernet packet side).lanes_eq (clean_ofEthernet packet side)
  rw [payload_ofEthernet] at lanes
  have lane {place : Nat} (short : place < laneCount) :
      ((ofEthernet packet side).words.getD 4 .zero).lanes.getD place 0 =
        packet.getD (14 + place) 0 := by
    have within : laneCount * 4 + place < laneCount * (ofEthernet packet side).words.length := by
      unfold laneCount at *
      omega
    rw [← getD_lanes _ long short, lanes, getD_takeD within]
    have behind : laneCount * 4 + place = 14 + place + 1 + 1 := by
      unfold laneCount
      omega
    rw [behind, List.getD_cons_succ, List.getD_cons_succ]
  rw [Word.toNat_low, lane (by decide), lane (by decide), Header.declaredLength]

/-- Behind the normalizer a network packet is fitted to its declared length. -/
theorem fitted_ofEthernet (enough : 18 ≤ packet.length)
    (network : Normalization.IsNetwork (ofEthernet packet side).words) :
    Fitted packet ⟨Normalization.whole (ofEthernet packet side).words⟩ := by
  have isSealed := sealed_ofEthernet packet side
  have payload := Normalization.payload_whole isSealed (clean_ofEthernet packet side) network
  rw [payload_ofEthernet, Normalization.span_eq, low_ofEthernet packet side network.1] at payload
  have bytes : toEthernet ⟨Normalization.whole (ofEthernet packet side).words⟩ =
      if Header.declaredLength packet = 0 then packet.take 18
      else packet.takeD (Header.linkBytes + Header.declaredLength packet) 0 := by
    rw [toEthernet, payload]
    split
    · exact List.takeD_eq_take 0 enough
    · rw [alignmentPad, Nat.add_assoc, Nat.add_comm 2]
      rfl
  refine ⟨(Normalization.sealed_whole isSealed).isWellFormed, Normalization.side_whole _, bytes,
    ?_, ?_⟩
  · intro datagram pad split declared length
    rw [bytes, if_neg declared, split, List.takeD_left' (length.trans (by rw [split]))]
  · intro missing length
    have declared : Header.declaredLength packet ≠ 0 := by
      unfold Header.linkBytes at length
      omega
    rw [bytes, if_neg declared, ← length, ← takeD_append_replicate (Nat.le_refl _),
      List.takeD_eq_take 0 (Nat.le_refl _), List.take_length]

end Frame

end FrameRouter
