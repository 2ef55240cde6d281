import FrameRouter.Proofs.Frame.Lanes
import FrameRouter.Proofs.Frame.Sealed
import Mathlib.Data.List.TakeDrop

/-!
# Packed bytes

Packing bytes into words seals the words, loses nothing and leaves zeros in the
lanes behind the last byte.  Read lane by lane, packed words are therefore the
bytes, continued by zeros up to the end of the final word.
-/

namespace FrameRouter

section Continued

variable {α : Type} {items rest : List α} {filler : α} {count more : Nat}

theorem takeD_append_add (items rest : List α) (count : Nat) (filler : α) :
    (items ++ rest).takeD (items.length + count) filler = items ++ rest.takeD count filler := by
  induction items with
  | nil => simp
  | cons item items ih =>
      rw [List.length_cons, Nat.add_right_comm, List.cons_append, List.takeD_succ]
      simp [ih]

theorem take_takeD (within : count ≤ more) :
    (items.takeD more filler).take count = items.takeD count filler := by
  induction count generalizing items more with
  | zero => rfl
  | succ count ih =>
      obtain ⟨more, rfl⟩ := Nat.exists_eq_add_of_le' (Nat.le_of_succ_le within)
      cases more with
      | zero => omega
      | succ more =>
          rw [Nat.add_right_comm, List.takeD_succ, List.takeD_succ, List.take_succ_cons, ih]
          omega

/-- Behind the end of a list only the filler follows. -/
theorem takeD_append_replicate (within : items.length ≤ count) :
    items.takeD count filler ++ List.replicate more filler =
      items.takeD (count + more) filler := by
  induction items generalizing count with
  | nil => simp
  | cons item items ih =>
      cases count with
      | zero => simp at within
      | succ count =>
          rw [Nat.add_right_comm, List.takeD_succ, List.takeD_succ]
          simp only [List.head?_cons, Option.getD_some, List.tail_cons, List.cons_append]
          rw [ih (Nat.le_of_succ_le_succ within)]

theorem getD_takeD {place : Nat} (within : place < count) :
    (items.takeD count filler).getD place filler = items.getD place filler := by
  induction count generalizing items place with
  | zero => omega
  | succ count ih =>
      cases items with
      | nil =>
          rw [List.takeD_nil, List.getD_eq_getElem _ _ (by simpa using within)]
          simp
      | cons item items =>
          cases place with
          | zero => rfl
          | succ place => exact ih (Nat.lt_of_succ_lt_succ within)

/-- Behind the items of a list only the filler follows. -/
theorem drop_takeD {start : Nat} (count : Nat) (behind : items.length ≤ start) :
    (items.takeD count filler).drop start = List.replicate (count - start) filler := by
  refine List.eq_replicate_iff.mpr ⟨by simp, ?_⟩
  intro item membership
  obtain ⟨place, within, rfl⟩ := List.getElem_of_mem membership
  rw [List.length_drop, List.takeD_length] at within
  have inside : start + place < count := by omega
  rw [List.getElem_drop, ← List.getD_eq_getElem _ filler, getD_takeD inside,
    List.getD_eq_default _ _ (by omega)]

end Continued

namespace Word

theorem lanes_pack (first second third fourth side bytes : UInt8) (last : Bool) :
    lanes ⟨pack first second third fourth, side, bytes, last⟩ =
      [first, second, third, fourth] := by
  have firstBound := first.toNat_lt
  have secondBound := second.toNat_lt
  have thirdBound := third.toNat_lt
  have fourthBound := fourth.toNat_lt
  have value : (pack first second third fourth).toNat =
      ((first.toNat * 256 + second.toNat) * 256 + third.toNat) * 256 + fourth.toNat := by
    unfold pack
    rw [UInt32.toNat_ofNat']
    omega
  have high := toNat_lane (pack first second third fourth) 24
  have next := toNat_lane (pack first second third fourth) 16
  have following := toNat_lane (pack first second third fourth) 8
  have low : (pack first second third fourth).toUInt8.toNat = _ := UInt32.toNat_toUInt8 _
  simp only [UInt32.reduceToNat, Nat.reduceMod, value] at high next following low
  simp only [lanes, List.cons.injEq, and_true]
  refine ⟨?_, ?_, ?_, ?_⟩ <;> apply UInt8.toNat_inj.mp <;> omega

@[simp]
theorem length_lanes (word : Word) : word.lanes.length = laneCount := rfl

/-- The low half of a word is made of its last two lanes. -/
theorem toNat_low (word : Word) :
    word.low.toNat = (word.lanes.getD 2 0).toNat * 256 + (word.lanes.getD 3 0).toNat := by
  have third := toNat_lane word.data 8
  have fourth : word.data.toUInt8.toNat = word.data.toNat % 2 ^ 8 := UInt32.toNat_toUInt8 _
  have low : word.low.toNat = word.data.toNat % 2 ^ 16 := UInt32.toNat_toUInt16 _
  simp only [UInt32.reduceToNat, Nat.reduceMod] at third
  change word.low.toNat = (word.data >>> 8).toUInt8.toNat * 256 + word.data.toUInt8.toNat
  omega

/-- The high half of a word is made of its first two lanes. -/
theorem toNat_high (word : Word) :
    word.high.toNat = (word.lanes.getD 0 0).toNat * 256 + (word.lanes.getD 1 0).toNat := by
  have first := toNat_lane word.data 24
  have second := toNat_lane word.data 16
  have high : word.high.toNat = word.data.toNat / 2 ^ 16 % 2 ^ 16 := by
    rw [high, UInt32.toNat_toUInt16, UInt32.toNat_shiftRight, Nat.shiftRight_eq_div_pow]
    rfl
  have bounded : word.data.toNat < 2 ^ 32 := word.data.toNat_lt
  simp only [UInt32.reduceToNat, Nat.reduceMod] at first second
  change word.high.toNat =
    (word.data >>> 24).toUInt8.toNat * 256 + (word.data >>> 16).toUInt8.toNat
  omega

/-- Lanes that agree up to a count agree up to any lower one. -/
theorem take_lanes_of_le {first second : Word} {low high : Nat} (within : low ≤ high)
    (same : first.lanes.take high = second.lanes.take high) :
    first.lanes.take low = second.lanes.take low := by
  have cut := congrArg (List.take low) same
  rwa [List.take_take, List.take_take, Nat.min_eq_left within] at cut

theorem high_of_lanes {first second : Word} (same : first.lanes.take 2 = second.lanes.take 2) :
    first.high = second.high := by
  simp only [lanes, List.take_succ_cons, List.take_zero, List.cons.injEq, and_true] at same
  apply UInt16.toNat_inj.mp
  rw [toNat_high, toNat_high]
  simp only [lanes, List.getD_cons_zero, List.getD_cons_succ, same.1, same.2]

/-- Keeping all lanes of a word keeps its data. -/
theorem keep_all (word : Word) : word.keep laneCount = word.data := by
  apply UInt32.toNat_inj.mp
  rw [toNat_keep word (Nat.le_refl _), Nat.sub_self]
  omega

/-- The data of a word is what its four lanes say. -/
theorem data_of_lanes {first second : Word}
    (same : first.lanes.take laneCount = second.lanes.take laneCount) :
    first.data = second.data := by
  have lanes : first.lanes = second.lanes := by
    rwa [List.take_of_length_le (Nat.le_of_eq first.length_lanes),
      List.take_of_length_le (Nat.le_of_eq second.length_lanes)] at same
  rw [← keep_all first, ← keep_all second]
  simp only [keep, laneWithin, lanes]

/-- Inside a frame all lanes of a word are valid. -/
theorem payload_inside {word : Word} (unended : word.last = false) :
    word.payload = word.lanes := by
  simp [payload, unended]

theorem payload_final {word : Word} (ended : word.last = true) :
    word.payload = word.lanes.take word.bytes.toNat := by
  rw [payload, ended, if_pos rfl]

/-- The lanes behind the valid ones are zero. -/
def Clean (word : Word) : Prop := word.lanes = (word.lanes.take word.bytes.toNat).takeD laneCount 0

theorem clean_of_full {word : Word} (full : word.bytes = 4) : word.Clean := by
  unfold Clean
  rw [full]
  rfl

/-- Keeping the first lanes of a word puts zeros behind them. -/
theorem lanes_keep (word : Word) (count : Nat) (side bytes : UInt8) (last : Bool) :
    lanes ⟨word.keep count, side, bytes, last⟩ = (word.lanes.take count).takeD laneCount 0 := by
  unfold keep
  rw [lanes_pack]
  match count with
  | 0 | 1 | 2 | 3 => rfl
  | count + 4 => simp [laneWithin, lanes, laneCount]

end Word

namespace Frame

theorem sealed_packBytes (side : UInt8) {bytes : List UInt8} (nonempty : bytes ≠ []) :
    Sealed (packBytes side bytes) := by
  fun_induction packBytes side bytes with
  | case1 => exact absurd rfl nonempty
  | case2 | case3 | case4 | case5 => exact ⟨[], _, rfl, by simp, rfl⟩
  | case6 a b c d e rest ih =>
      obtain ⟨body, final, packed, inside, ended⟩ := ih (by simp)
      refine ⟨⟨Word.pack a b c d, side, 4, false⟩ :: body, final, by rw [packed]; rfl, ?_, ended⟩
      intro word membership
      rcases List.mem_cons.mp membership with rfl | further
      · exact ⟨rfl, rfl⟩
      · exact inside word further

/-- The valid bytes of packed words are the bytes. -/
theorem payload_packBytes (side : UInt8) (bytes : List UInt8) :
    (packBytes side bytes).flatMap Word.payload = bytes := by
  fun_induction packBytes side bytes with
  | case1 => rfl
  | case2 | case3 | case4 | case5 => simp [Word.payload, Word.lanes_pack]
  | case6 a b c d e rest ih =>
      rw [List.flatMap_cons, ih]
      simp [Word.payload, Word.lanes_pack]

theorem clean_packBytes (side : UInt8) (bytes : List UInt8) :
    ∀ word ∈ packBytes side bytes, word.Clean := by
  fun_induction packBytes side bytes with
  | case1 => simp
  | case2 | case3 | case4 | case5 =>
      intro word membership
      rw [List.mem_singleton.mp membership, Word.Clean, Word.lanes_pack]
      rfl
  | case6 a b c d e rest ih =>
      intro word membership
      rcases List.mem_cons.mp membership with rfl | further
      · exact Word.clean_of_full rfl
      · exact ih word further

theorem length_packBytes (side : UInt8) (bytes : List UInt8) :
    (packBytes side bytes).length = (bytes.length + 3) / laneCount := by
  unfold laneCount
  fun_induction packBytes side bytes with
  | case1 => rfl
  | case2 | case3 | case4 | case5 => simp
  | case6 a b c d e rest ih =>
      rw [List.length_cons, ih]
      simp only [List.length_cons]
      omega

/-- The lanes of all words, in stream order. -/
def lanes (words : List Word) : List UInt8 := words.flatMap Word.lanes

@[simp]
theorem length_lanes (words : List Word) : (lanes words).length = laneCount * words.length := by
  induction words with
  | nil => rfl
  | cons word words ih =>
      rw [lanes, List.flatMap_cons, List.length_append, Word.length_lanes]
      change _ + (lanes words).length = _
      rw [ih, List.length_cons, Nat.mul_succ, Nat.add_comm]

theorem getD_lanes (words : List Word) {place lane : Nat} (within : place < words.length)
    (short : lane < laneCount) :
    (lanes words).getD (laneCount * place + lane) 0 =
      (words.getD place .zero).lanes.getD lane 0 := by
  induction words generalizing place with
  | nil => simp at within
  | cons word words ih =>
      rw [lanes, List.flatMap_cons]
      cases place with
      | zero =>
          rw [List.getD_append _ _ _ _ (by simpa using short)]
          simp
      | succ place =>
          rw [List.getD_append_right _ _ _ _ (by simp [laneCount]; omega)]
          have shifted : laneCount * (place + 1) + lane - word.lanes.length =
              laneCount * place + lane := by
            simp [laneCount]
            omega
          rw [shifted]
          exact ih (Nat.lt_of_succ_lt_succ within)

/-- A frame is well formed if its final word, and no other, ends it. -/
theorem isWellFormed_iff (frame : Frame) :
    frame.isWellFormed = true ↔ Cutting.Whole Word.last frame.words := by
  obtain ⟨words⟩ := frame
  change terminalOnlyAtEnd words = true ↔ Cutting.Whole Word.last words
  induction words with
  | nil =>
      constructor
      · intro none
        cases none
      · intro whole
        exact absurd rfl whole.ne_nil
  | cons word rest ih =>
      cases rest with
      | nil => rw [Cutting.Whole.singleton_iff, terminalOnlyAtEnd]
      | cons next rest =>
          rw [Cutting.Whole.cons_iff, ← ih, terminalOnlyAtEnd, Bool.and_eq_true,
            Bool.not_eq_true']

/-- A sealed frame is well formed. -/
theorem Sealed.isWellFormed {words : List Word} (isSealed : Sealed words) :
    isWellFormed ⟨words⟩ = true :=
  (isWellFormed_iff ⟨words⟩).mpr isSealed.whole

/-- Words inside a frame show all of their lanes. -/
theorem payload_of_open {words : List Word} (isOpen : Cutting.Open Word.last words) :
    words.flatMap Word.payload = lanes words := by
  unfold lanes
  rw [List.flatMap_def, List.flatMap_def]
  refine congrArg List.flatten (List.map_congr_left ?_)
  intro word membership
  exact Word.payload_inside (isOpen word membership)

/-- A whole frame shows the lanes in front of its terminal word, and the valid ones there. -/
theorem payload_of_whole {body : List Word} {final : Word} (isOpen : Cutting.Open Word.last body)
    (ended : final.last = true) :
    (body ++ [final]).flatMap Word.payload =
      lanes body ++ final.lanes.take final.bytes.toNat := by
  rw [List.flatMap_append, payload_of_open isOpen, List.flatMap_singleton,
    Word.payload_final ended]

/-- Sealing a whole frame leaves its packet as it is. -/
theorem toEthernet_ofWords {words : List Word} (isWhole : Cutting.Whole Word.last words) :
    (ofWords words).toEthernet = toEthernet ⟨words⟩ := by
  obtain ⟨body, final, rfl, isOpen, ended⟩ := isWhole
  have inside : (body.map fun word => { word with bytes := 4, last := false }).flatMap
      Word.payload = body.flatMap Word.payload := by
    rw [List.flatMap_map, List.flatMap_def, List.flatMap_def]
    refine congrArg List.flatten (List.map_congr_left ?_)
    intro word membership
    simp only [Word.payload, isOpen word membership]
    rfl
  have last : { final with last := true } = final := by rw [← ended]
  rw [toEthernet, ofWords, markEnd_append, List.flatMap_append, inside, last, toEthernet,
    List.flatMap_append]

/-- The lanes of a sealed frame of clean words are its payload, continued by zeros. -/
theorem Sealed.lanes_eq {words : List Word} (isSealed : Sealed words)
    (clean : ∀ word ∈ words, word.Clean) :
    lanes words = (words.flatMap Word.payload).takeD (laneCount * words.length) 0 := by
  obtain ⟨body, final, rfl, inside, ended⟩ := isSealed
  have isOpen : Cutting.Open Word.last body := fun word membership => (inside word membership).2
  have finalClean : final.Clean := clean final (by simp)
  rw [payload_of_whole isOpen ended, List.length_append, List.length_singleton, Nat.mul_succ,
    ← length_lanes, takeD_append_add, ← finalClean]
  simp [lanes]

section Packets

variable (packet : List UInt8) (side : UInt8)

theorem payload_ofEthernet :
    (ofEthernet packet side).words.flatMap Word.payload = 0 :: 0 :: packet :=
  payload_packBytes side _

theorem sealed_ofEthernet : Sealed (ofEthernet packet side).words :=
  sealed_packBytes side (by simp [alignmentPad])

theorem clean_ofEthernet : ∀ word ∈ (ofEthernet packet side).words, word.Clean :=
  clean_packBytes side _

theorem length_ofEthernet :
    (ofEthernet packet side).words.length = (packet.length + 5) / laneCount := by
  rw [ofEthernet, length_packBytes, List.length_append, List.length_replicate]
  congr 1
  unfold alignmentPad
  omega

end Packets

end Frame

end FrameRouter
