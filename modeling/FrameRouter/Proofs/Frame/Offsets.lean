import FrameRouter.Proofs.Engine.Overreading
import Mathlib.Algebra.Order.Floor.Div

/-!
# Header fields by their byte offsets

The classifier reads a packet word by word behind an alignment pad.  What it
finds are the fields at fixed byte offsets of the packet itself, as far as the
words of the packet reach.
-/

namespace FrameRouter

section Slices

variable {α : Type} {items first second : List α}

/-- A slice is made of two parts if its two parts are these. -/
theorem extract_eq_append_iff {start middle stop : Nat} (before : start + first.length = middle)
    (behind : middle + second.length = stop) (within : middle ≤ items.length) :
    items.extract start stop = first ++ second ↔
      items.extract start middle = first ∧ items.extract middle stop = second := by
  subst before behind
  have split : items.extract start (start + first.length + second.length) =
      items.extract start (start + first.length) ++
        items.extract (start + first.length) (start + first.length + second.length) := by
    simp only [List.extract_eq_take_drop, Nat.add_assoc, Nat.add_sub_cancel_left,
      Nat.add_sub_add_left]
    rw [List.take_add, List.drop_drop]
  have length : (items.extract start (start + first.length)).length = first.length := by
    simp only [List.extract_eq_take_drop, List.length_take, List.length_drop]
    omega
  rw [split]
  constructor
  · exact fun same => List.append_inj same length
  · rintro ⟨front, rest⟩
    rw [front, rest]

end Slices

/-- The two bytes of a number, the most significant one first. -/
def bigEndian (value : UInt16) : List UInt8 := [(value >>> 8).toUInt8, value.toUInt8]

theorem eq_bigEndian_iff {high low : UInt8} {value : UInt16} :
    [high, low] = bigEndian value ↔ value.toNat = high.toNat * 256 + low.toNat := by
  have upper : (value >>> 8).toUInt8.toNat = value.toNat / 2 ^ 8 % 2 ^ 8 := by
    rw [UInt16.toNat_toUInt8, UInt16.toNat_shiftRight, Nat.shiftRight_eq_div_pow]
    rfl
  have bounded := value.toNat_lt
  have highBounded := high.toNat_lt
  have lowBounded := low.toNat_lt
  simp only [bigEndian, List.cons.injEq, and_true, ← UInt8.toNat_inj, upper,
    UInt16.toNat_toUInt8]
  omega

theorem IcmpPattern.bigEndian_typeCode (pattern : IcmpPattern) :
    bigEndian pattern.typeCode = [pattern.type, pattern.code] := by
  have type := pattern.type.toNat_lt
  have code := pattern.code.toNat_lt
  refine (eq_bigEndian_iff.mpr ?_).symm
  exact UInt16.toNat_ofNat_of_lt' (by change _ < 65536; omega)

namespace Word

variable {word : Word}

/-- The low half of a word is what its last two lanes say. -/
theorem low_eq_iff {value : UInt16} : word.low = value ↔ word.lanes.drop 2 = bigEndian value := by
  change _ ↔ [_, _] = _
  rw [eq_bigEndian_iff, ← UInt16.toNat_inj, toNat_low]
  exact eq_comm

/-- The high half of a word is what its first two lanes say. -/
theorem high_eq_iff {value : UInt16} : word.high = value ↔ word.lanes.take 2 = bigEndian value := by
  change _ ↔ [_, _] = _
  rw [eq_bigEndian_iff, ← UInt16.toNat_inj, toNat_high]
  exact eq_comm

theorem data_eq_iff {value : UInt32} : word.data = value ↔ word.lanes = (full value).lanes := by
  constructor
  · rintro rfl
    rfl
  · intro same
    exact data_of_lanes (congrArg (List.take laneCount) same)

end Word

namespace Frame

/-- A word shows four of the lanes of its frame. -/
theorem lanes_getD (words : List Word) {place : Nat} (within : place < words.length) :
    (words.getD place .zero).lanes =
      (lanes words).extract (laneCount * place) (laneCount * place + laneCount) := by
  rw [List.extract_eq_take_drop, Nat.add_sub_cancel_left]
  induction words generalizing place with
  | nil => cases within
  | cons word words ih =>
      rw [lanes, List.flatMap_cons]
      cases place with
      | zero => exact (List.take_left' word.length_lanes).symm
      | succ place =>
          rw [List.getD_cons_succ, ih (Nat.lt_of_succ_lt_succ within), Nat.mul_succ,
            Nat.add_comm, ← word.length_lanes, List.drop_length_add_append]
          rfl

/-- The words of a packet with its pad. -/
def wordCount (packet : List UInt8) : Nat := (packet.length + alignmentPad) ⌈/⌉ laneCount

/-- The bytes of a packet, continued by zeros up to the end of its final word. -/
def padded (packet : List UInt8) : List UInt8 :=
  packet ++ List.replicate (laneCount * wordCount packet - (packet.length + alignmentPad)) 0

section Packets

variable (packet : List UInt8) (side : UInt8)

theorem wordCount_eq : wordCount packet = (packet.length + 5) / 4 := rfl

theorem length_eq_wordCount : (ofEthernet packet side).words.length = wordCount packet :=
  length_ofEthernet packet side

theorem length_padded : (padded packet).length = laneCount * wordCount packet - alignmentPad := by
  have count := wordCount_eq packet
  simp only [padded, List.length_append, List.length_replicate, laneCount, alignmentPad]
  omega

/-- Behind the pad the lanes of a packet are its bytes, continued by zeros. -/
theorem lanes_ofEthernet :
    lanes (ofEthernet packet side).words = List.replicate alignmentPad 0 ++ padded packet := by
  have count := wordCount_eq packet
  have length : laneCount * wordCount packet = (0 :: 0 :: packet).length +
      (laneCount * wordCount packet - (packet.length + alignmentPad)) := by
    simp only [List.length_cons, laneCount, alignmentPad]
    omega
  have continued := takeD_append_add (0 :: 0 :: packet) []
    (laneCount * wordCount packet - (packet.length + alignmentPad)) (0 : UInt8)
  rw [List.append_nil, List.takeD_nil, ← length] at continued
  rw [(sealed_ofEthernet packet side).lanes_eq (clean_ofEthernet packet side),
    payload_ofEthernet, length_eq_wordCount, continued]
  rfl

/-- Without the pad, what stands in the lanes stands two places further on in the packet. -/
theorem drop_lanes_ofEthernet (start : Nat) :
    (lanes (ofEthernet packet side).words).drop (start + 2) = (padded packet).drop start := by
  rw [lanes_ofEthernet]
  rfl

section Words

variable {packet} {place start : Nat}

/-- The word in a place of the packet. -/
def wordIn (packet : List UInt8) (side : UInt8) (place : Nat) : Word :=
  (ofEthernet packet side).words.getD place .zero

/-- Half a word lies behind the offset at which the word would begin without the pad. -/
theorem low_wordIn (within : place < wordCount packet) (offset : laneCount * place = start)
    {value : UInt16} :
    (wordIn packet side place).low = value ↔
      (padded packet).extract start (start + 2) = bigEndian value := by
  rw [← length_eq_wordCount packet side] at within
  rw [Word.low_eq_iff, wordIn, lanes_getD _ within, offset]
  simp only [List.extract_eq_take_drop, Nat.add_sub_cancel_left, List.drop_take, List.drop_drop,
    drop_lanes_ofEthernet]
  rfl

theorem lanes_wordIn (within : place < wordCount packet) (offset : laneCount * place = start + 2) :
    (wordIn packet side place).lanes = (padded packet).extract start (start + laneCount) := by
  rw [← length_eq_wordCount packet side] at within
  rw [wordIn, lanes_getD _ within, offset]
  simp only [List.extract_eq_take_drop, Nat.add_sub_cancel_left, drop_lanes_ofEthernet]

theorem data_wordIn (within : place < wordCount packet) (offset : laneCount * place = start + 2)
    {value : UInt32} :
    (wordIn packet side place).data = value ↔
      (padded packet).extract start (start + laneCount) = (Word.full value).lanes := by
  rw [Word.data_eq_iff, lanes_wordIn side within offset]

theorem high_wordIn (within : place < wordCount packet) (offset : laneCount * place = start + 2)
    {value : UInt16} :
    (wordIn packet side place).high = value ↔
      (padded packet).extract start (start + 2) = bigEndian value := by
  rw [Word.high_eq_iff, lanes_wordIn side within offset]
  simp only [List.extract_eq_take_drop, Nat.add_sub_cancel_left, List.take_take]
  rfl

theorem protocol_wordIn (within : place < wordCount packet)
    (offset : laneCount * place = start + 2) {value : UInt8} :
    Header.protocol (wordIn packet side place) = value ↔
      (padded packet)[start + 1]? = some value := by
  have second : (wordIn packet side place).lanes[1]? =
      some (Header.protocol (wordIn packet side place)) := rfl
  rw [lanes_wordIn side within offset] at second
  simp only [List.extract_eq_take_drop, Nat.add_sub_cancel_left, List.getElem?_take,
    List.getElem?_drop, laneCount, Nat.one_lt_ofNat, ↓reduceIte] at second
  rw [second, Option.some.injEq]

/-- A word is not zero if one of its lanes is not. -/
theorem data_wordIn_ne_zero (within : place < wordCount packet)
    (offset : laneCount * place = start + 2) :
    (wordIn packet side place).data ≠ 0 ↔
      ∃ byte ∈ (padded packet).extract start (start + laneCount), byte ≠ 0 := by
  have zeros : (wordIn packet side place).lanes = (Word.full 0).lanes ↔
      ∀ byte ∈ (wordIn packet side place).lanes, byte = 0 := by
    change _ = List.replicate laneCount 0 ↔ _
    rw [List.eq_replicate_iff]
    exact and_iff_right (Word.length_lanes _)
  rw [← lanes_wordIn side within offset, Ne, Word.data_eq_iff, zeros]
  simp only [not_forall, exists_prop]

end Words

end Packets

/-- Whether a packet reaches a place and its word there passes a test. -/
theorem holds_ofEthernet (packet : List UInt8) (side : UInt8) {config : Config} {place : Nat}
    {test : Sample → Bool} :
    holds ((ofEthernet packet side).samples config) place test = true ↔
      place < wordCount packet ∧ test ⟨wordIn packet side place, config⟩ = true := by
  rw [← length_eq_wordCount packet side]
  unfold holds samples wordIn
  by_cases within : place < (ofEthernet packet side).words.length
  · simp [within]
  · simp [within]

/-- The first two words of a packet hold its destination. -/
theorem destination_iff (packet : List UInt8) (side : UInt8) {mac : Mac} :
    ((0 < wordCount packet ∧ (wordIn packet side 0).low = mac.high) ∧
        1 < wordCount packet ∧ (wordIn packet side 1).data = mac.low) ↔
      2 ≤ wordCount packet ∧ (padded packet).extract 0 6 = mac.bytes := by
  have address : mac.bytes = bigEndian mac.high ++ (Word.full mac.low).lanes := rfl
  have parts (reaches : 1 < wordCount packet) :
      (padded packet).extract 0 6 = mac.bytes ↔
        (wordIn packet side 0).low = mac.high ∧ (wordIn packet side 1).data = mac.low := by
    have within : 2 ≤ (padded packet).length := by
      rw [length_padded, laneCount, alignmentPad]
      omega
    have split : (padded packet).extract 0 6 = mac.bytes ↔
        (padded packet).extract 0 2 = bigEndian mac.high ∧
          (padded packet).extract 2 6 = (Word.full mac.low).lanes :=
      address ▸ extract_eq_append_iff rfl rfl within
    rw [split]
    refine and_congr (Iff.symm ?_) (Iff.symm ?_)
    · exact low_wordIn side (Nat.zero_lt_of_lt reaches) rfl
    · exact data_wordIn side reaches rfl
  constructor
  · rintro ⟨⟨_, high⟩, reaches, low⟩
    exact ⟨reaches, (parts reaches).mpr ⟨high, low⟩⟩
  · rintro ⟨reaches, bytes⟩
    obtain ⟨high, low⟩ := (parts reaches).mp bytes
    exact ⟨⟨Nat.zero_lt_of_lt reaches, high⟩, reaches, low⟩

end Frame

/-- A port is served if it is a configured one other than zero. -/
theorem Config.serves_iff {config : Config} {port : UInt16} :
    config.serves port = true ↔
      ∃ service ∈ [config.servicePorts.1, config.servicePorts.2], service ≠ 0 ∧ port = service := by
  simp only [serves, Bool.and_eq_true, Bool.or_eq_true, bne_iff_ne, beq_iff_eq, List.mem_cons,
    List.not_mem_nil, or_false]
  constructor
  · rintro ⟨used, rfl | rfl⟩
    · exact ⟨_, Or.inl rfl, used, rfl⟩
    · exact ⟨_, Or.inr rfl, used, rfl⟩
  · rintro ⟨service, configured, used, rfl⟩
    exact ⟨used, configured.imp Eq.symm Eq.symm⟩

open FrameRouter.Frame in
/-- The classification of a packet as its fields at their byte offsets tell it. -/
structure Classification.ParsedFrom (c : Classification) (config : Config)
    (packet : List UInt8) : Prop where
  wordsSeen : c.wordsSeen = min 12 (wordCount packet)
  isLocal : c.isLocal = true ↔
    2 ≤ wordCount packet ∧ (padded packet).extract 0 6 = config.mac.bytes
  isBroadcast : c.isBroadcast = true ↔
    2 ≤ wordCount packet ∧ (padded packet).extract 0 6 = List.replicate 6 0xff
  ipv4 : c.ipv4 = true ↔ 4 ≤ wordCount packet ∧ (padded packet).extract 12 14 = [0x08, 0x00]
  udp : c.udp = true ↔ 7 ≤ wordCount packet ∧ (padded packet)[23]? = some 17
  icmp : c.icmp = true ↔ 7 ≤ wordCount packet ∧ (padded packet)[23]? = some 1
  ipMatch : c.ipMatch = true ↔
    9 ≤ wordCount packet ∧ (padded packet).extract 30 34 = config.ip.bytes
  portMatch : c.portMatch = true ↔ 10 ≤ wordCount packet ∧
    ∃ port ∈ [config.servicePorts.1, config.servicePorts.2],
      port ≠ 0 ∧ (padded packet).extract 36 38 = bigEndian port
  icmpMatch : c.icmpMatch = true ↔ 10 ≤ wordCount packet ∧
    ∃ pattern, config.suppressed = some pattern ∧
      (padded packet).extract 34 36 = [pattern.type, pattern.code]
  marker : c.marker = true ↔
    12 ≤ wordCount packet ∧ ∃ byte ∈ (padded packet).extract 42 46, byte ≠ 0

namespace Frame

/--
Whatever the length of a packet, the flags collected word by word are those
read off the packet at byte offsets, as far as its words reach.
-/
theorem parsed_exact (config : Config) (packet : List UInt8) (side : UInt8) :
    (Classification.ofWords config (ofEthernet packet side).words).ParsedFrom config packet := by
  rw [ofWords_eq_read]
  have everyone : Mac.broadcast.bytes = List.replicate 6 0xff := by decide
  have network : bigEndian Header.ipv4Ethertype = [0x08, 0x00] := by decide
  constructor
  case wordsSeen =>
    simp only [Classification.read, samples, List.length_map, length_eq_wordCount]
    exact Nat.min_comm _ _
  -- Each flag asks whether the packet reaches a place, and what its word there says.
  all_goals
    simp only [Classification.isLocal, Classification.isBroadcast, Classification.read,
      Bool.and_eq_true, holds_ofEthernet, beq_iff_eq, bne_iff_ne, Option.any_eq_true]
  case isLocal => exact destination_iff packet side
  case isBroadcast => rw [destination_iff packet side, everyone]
  case ipv4 =>
    refine and_congr_right fun within => ?_
    rw [← network]
    exact low_wordIn side within rfl
  case udp => exact and_congr_right fun within => protocol_wordIn side within rfl
  case icmp => exact and_congr_right fun within => protocol_wordIn side within rfl
  case ipMatch => exact and_congr_right fun within => data_wordIn side within rfl
  case portMatch =>
    refine and_congr_right fun within => ?_
    rw [Config.serves_iff]
    refine exists_congr fun port => and_congr_right fun _ => and_congr_right fun _ => ?_
    exact low_wordIn side within rfl
  case icmpMatch =>
    refine and_congr_right fun within => ?_
    refine exists_congr fun pattern => and_congr_right fun _ => ?_
    rw [← pattern.bigEndian_typeCode, eq_comm]
    exact high_wordIn side within rfl
  case marker => exact and_congr_right fun within => data_wordIn_ne_zero side within rfl

end Frame

end FrameRouter
