import FrameRouter.Proofs.Frame.Packing
import Mathlib.Algebra.Order.Floor.Div

/-!
# Unpacked frames

Packing a packet and unpacking it gives the packet back.  The other way round a
frame comes back exactly if packing could have made it: annotated alike
throughout, with a pad in front, a terminal word that is not empty, and zeros
in the lanes behind the last byte.
-/

namespace FrameRouter

namespace Word

/-- A word is its lanes and what stands beside them. -/
theorem ext_lanes {first second : Word} (lanes : first.lanes = second.lanes)
    (side : first.side = second.side) (bytes : first.bytes = second.bytes)
    (last : first.last = second.last) : first = second := by
  have data := data_of_lanes (congrArg (List.take laneCount) lanes)
  cases first
  cases second
  cases data
  cases side
  cases bytes
  cases last
  rfl

/-- A word is clean if none of its lanes behind the valid ones holds anything. -/
theorem clean_iff (word : Word) :
    word.Clean ↔ ∀ lane ∈ word.lanes.drop word.bytes.toNat, lane = 0 := by
  have short : (word.lanes.take word.bytes.toNat).length ≤ word.bytes.toNat :=
    List.length_take_le _ _
  constructor
  · intro clean lane membership
    rw [clean, drop_takeD _ short] at membership
    exact List.eq_of_mem_replicate membership
  · intro zeros
    have behind : word.lanes.drop word.bytes.toNat =
        List.replicate (laneCount - word.bytes.toNat) 0 :=
      List.eq_replicate_iff.mpr ⟨by simp, zeros⟩
    have split := takeD_append_add (word.lanes.take word.bytes.toNat) []
      (laneCount - word.bytes.toNat) (0 : UInt8)
    rw [List.append_nil, List.takeD_nil, ← behind, List.take_append_drop, List.length_take,
      length_lanes] at split
    have length : min word.bytes.toNat laneCount + (laneCount - word.bytes.toNat) = laneCount := by
      omega
    rw [length] at split
    exact split.symm

theorem take_lanes_ne_nil (word : Word) (some : 1 ≤ word.bytes) :
    word.lanes.take word.bytes.toNat ≠ [] := by
  have low : 1 ≤ word.bytes.toNat := UInt8.le_iff_toNat_le.mp some
  apply List.ne_nil_of_length_pos
  rw [List.length_take, length_lanes]
  exact Nat.lt_min.mpr ⟨low, by decide⟩

end Word

namespace Frame

section Bytes

variable (side : UInt8)

/-- Packed words carry the annotation of their packet. -/
theorem side_packBytes (bytes : List UInt8) : ∀ word ∈ packBytes side bytes, word.side = side := by
  fun_induction packBytes side bytes with
  | case1 => simp
  | case2 | case3 | case4 | case5 =>
      intro word membership
      rw [List.mem_singleton.mp membership]
  | case6 a b c d e rest ih => exact List.forall_mem_cons.mpr ⟨rfl, ih⟩

/-- A packed word holds at least one byte and at most four. -/
theorem bytes_packBytes (bytes : List UInt8) :
    ∀ word ∈ packBytes side bytes, 1 ≤ word.bytes ∧ word.bytes ≤ 4 := by
  fun_induction packBytes side bytes with
  | case1 => simp
  | case2 | case3 | case4 | case5 =>
      intro word membership
      simp [List.mem_singleton.mp membership]
  | case6 a b c d e rest ih => exact List.forall_mem_cons.mpr ⟨by simp, ih⟩

/-- In front of further bytes four bytes fill a word. -/
theorem packBytes_lanes_append (word : Word) {rest : List UInt8} (nonempty : rest ≠ []) :
    packBytes side (word.lanes ++ rest) = ⟨word.data, side, 4, false⟩ :: packBytes side rest := by
  obtain ⟨next, rest, rfl⟩ := List.exists_cons_of_ne_nil nonempty
  change _ :: packBytes side (next :: rest) = _
  congr 1
  exact Word.ext_lanes (Word.lanes_pack _ _ _ _ _ _ _) rfl rfl rfl

/-- The valid lanes of a clean word fill the terminal word. -/
theorem packBytes_take_lanes {word : Word} (clean : word.Clean) (some : 1 ≤ word.bytes)
    (within : word.bytes ≤ 4) :
    packBytes side (word.lanes.take word.bytes.toNat) = [⟨word.data, side, word.bytes, true⟩] := by
  have low := UInt8.le_iff_toNat_le.mp some
  have high := UInt8.le_iff_toNat_le.mp within
  have count : word.bytes = 1 ∨ word.bytes = 2 ∨ word.bytes = 3 ∨ word.bytes = 4 := by
    simp only [← UInt8.toNat_inj, UInt8.reduceToNat] at low high ⊢
    omega
  unfold Word.Clean at clean
  rcases count with count | count | count | count <;>
  · rw [count] at clean ⊢
    refine congrArg (fun word => [word]) (Word.ext_lanes ?_ rfl rfl rfl)
    rw [Word.lanes_pack]
    exact clean.symm

/-- The valid bytes of sealed words pack into these words, if the terminal one is clean. -/
theorem packBytes_payload {words : List Word} (isSealed : Sealed words)
    (sides : ∀ word ∈ words, word.side = side)
    (counts : ∀ word ∈ words.getLast?, 1 ≤ word.bytes ∧ word.bytes ≤ 4)
    (clean : ∀ word ∈ words.getLast?, word.Clean) :
    packBytes side (words.flatMap Word.payload) = words := by
  obtain ⟨body, final, rfl, inside, ended⟩ := isSealed
  have ending := Word.payload_final ended
  obtain ⟨some, within⟩ := counts final List.getLast?_concat
  have finalClean := clean final List.getLast?_concat
  clear counts clean
  induction body with
  | nil =>
      rw [List.nil_append, List.flatMap_singleton, ending,
        packBytes_take_lanes side finalClean some within, ← ended, ← sides final (by simp)]
  | cons word body ih =>
      obtain ⟨⟨full, unended⟩, inside⟩ := List.forall_mem_cons.mp inside
      obtain ⟨alike, sides⟩ := List.forall_mem_cons.mp sides
      have rest : (body ++ [final]).flatMap Word.payload ≠ [] := by
        rw [List.flatMap_append, List.flatMap_singleton, ending]
        exact List.append_ne_nil_of_right_ne_nil _ (Word.take_lanes_ne_nil final some)
      rw [List.cons_append, List.flatMap_cons, Word.payload_inside unended,
        packBytes_lanes_append side word rest, ih sides inside, ← full, ← unended, ← alike]

end Bytes

/-- What tells the frame of a packet from other frames: it is filled to the last byte. -/
structure Packed (side : UInt8) (frame : Frame) : Prop where
  nonempty : frame.words ≠ []
  sides : ∀ word ∈ frame.words, word.side = side
  /-- The lanes of the pad are zero. -/
  pad : ∀ word ∈ frame.words.head?,
    word.lanes.take alignmentPad = List.replicate alignmentPad 0
  counts : ∀ word ∈ frame.words.getLast?, 1 ≤ word.bytes ∧ word.bytes ≤ 4
  /-- A single word holds the whole pad. -/
  single : ∀ word, frame.words = [word] → 2 ≤ word.bytes
  /-- The lanes behind the last byte are zero. -/
  clean : ∀ word ∈ frame.words.getLast?, ∀ lane ∈ word.lanes.drop word.bytes.toNat, lane = 0

section Packets

variable (packet : List UInt8) (side : UInt8)

/-- The first word of a packet begins with the pad. -/
theorem pad_ofEthernet : ∀ word ∈ (ofEthernet packet side).words.head?,
    word.lanes.take alignmentPad = List.replicate alignmentPad 0 := by
  intro word first
  obtain ⟨rest, split⟩ := List.head?_eq_some_iff.mp first
  have all := (sealed_ofEthernet packet side).lanes_eq (clean_ofEthernet packet side)
  rw [payload_ofEthernet, split] at all
  have front := congrArg (List.take alignmentPad) all
  have short : alignmentPad ≤ laneCount * (word :: rest).length := by
    simp [alignmentPad, laneCount]
    omega
  rw [take_takeD short] at front
  exact front

/-- If a packet fits into one word, this word holds the pad. -/
theorem two_le_bytes_of_single {word : Word} (single : (ofEthernet packet side).words = [word]) :
    2 ≤ word.bytes := by
  have payload := payload_ofEthernet packet side
  have whole := (sealed_ofEthernet packet side).whole
  rw [single] at payload whole
  have ended := Cutting.Whole.singleton_iff.mp whole
  rw [List.flatMap_singleton, Word.payload_final ended] at payload
  have length := congrArg List.length payload
  rw [List.length_take, Word.length_lanes, List.length_cons, List.length_cons] at length
  apply UInt8.le_iff_toNat_le.mpr
  change 2 ≤ word.bytes.toNat
  omega

theorem packed_ofEthernet : (ofEthernet packet side).Packed side where
  nonempty := (sealed_ofEthernet packet side).whole.ne_nil
  sides := side_packBytes side _
  pad := pad_ofEthernet packet side
  counts := fun word final => bytes_packBytes side _ word (List.mem_of_getLast? final)
  single := fun _ => two_le_bytes_of_single packet side
  clean := fun word final =>
    word.clean_iff.mp (clean_ofEthernet packet side word (List.mem_of_getLast? final))

end Packets

namespace Packed

variable {side : UInt8} {words : List Word}

/-- Behind the pad of a packed frame stands its packet. -/
theorem payload_eq (packed : Packed side ⟨words⟩) (isSealed : Sealed words) :
    words.flatMap Word.payload =
      List.replicate alignmentPad 0 ++ toEthernet ⟨words⟩ := by
  suffices front : (words.flatMap Word.payload).take alignmentPad =
      List.replicate alignmentPad 0 by
    rw [← front, toEthernet, List.take_append_drop]
  obtain ⟨body, final, rfl, inside, ended⟩ := isSealed
  cases body with
  | nil =>
      have whole : 2 ≤ final.bytes.toNat := UInt8.le_iff_toNat_le.mp (packed.single final rfl)
      rw [List.nil_append, List.flatMap_singleton, Word.payload_final ended, List.take_take,
        alignmentPad, Nat.min_eq_left whole]
      exact packed.pad final rfl
  | cons first body =>
      obtain ⟨⟨_, unended⟩, _⟩ := List.forall_mem_cons.mp inside
      rw [List.cons_append, List.flatMap_cons, Word.payload_inside unended]
      exact packed.pad first rfl

/-- Packing the packet of a packed frame makes the frame. -/
theorem ofEthernet_toEthernet (packed : Packed side ⟨words⟩) (isSealed : Sealed words) :
    ofEthernet (toEthernet ⟨words⟩) side = ⟨words⟩ := by
  have clean : ∀ word ∈ words.getLast?, word.Clean := fun word final =>
    word.clean_iff.mpr (packed.clean word final)
  rw [ofEthernet, ← packed.payload_eq isSealed,
    packBytes_payload side isSealed packed.sides packed.counts clean]

end Packed

/--
A packet is packed into as many words as its bytes and the pad need, and comes
back from them.  The frame of some words comes back from its packet exactly if
it is packed.
-/
theorem packing_exact (side : UInt8) :
    (∀ packet, (ofEthernet packet side).length = (packet.length + alignmentPad) ⌈/⌉ laneCount ∧
        (ofEthernet packet side).isWellFormed = true ∧
        (ofEthernet packet side).toEthernet = packet) ∧
      ∀ words, ofEthernet (ofWords words).toEthernet side = ofWords words ↔
        (ofWords words).Packed side := by
  refine ⟨?_, ?_⟩
  · intro packet
    refine ⟨length_ofEthernet packet side, (sealed_ofEthernet packet side).isWellFormed, ?_⟩
    rw [toEthernet, payload_ofEthernet]
    rfl
  · intro words
    constructor
    · intro same
      rw [← same]
      exact packed_ofEthernet _ side
    · intro packed
      have nonempty : words ≠ [] := by
        rintro rfl
        exact packed.nonempty rfl
      exact packed.ofEthernet_toEthernet (sealed_markEnd nonempty)

end Frame

end FrameRouter
