import FrameRouter.Proofs.Engine.Constant
import FrameRouter.Proofs.Frame.Packing

/-!
# Lanes that were not received

The terminal word of a frame may have fewer valid lanes than four, but the
classifier compares it like any other.  If it stands in a place of the header
whose fields reach beyond the valid lanes, then lanes that were not received
have a part in the classification, and in three places in the route.
-/

namespace FrameRouter

open Cutting Header

namespace Word

theorem protocol_of_lanes {first second : Word}
    (same : first.lanes.take 2 = second.lanes.take 2) : protocol first = protocol second := by
  simp only [lanes, List.take_succ_cons, List.take_zero, List.cons.injEq, and_true] at same
  exact same.2

end Word

namespace Frame

/-- The words of a frame, all met by one configuration. -/
def samples (config : Config) (frame : Frame) : List Sample :=
  frame.words.map fun word => ⟨word, config⟩

theorem ofWords_eq_read (config : Config) (frame : Frame) :
    Classification.ofWords config frame.words = .read (frame.samples config) := by
  rw [← Classification.ofSamples_eq_read, samples, Classification.ofSamples, List.foldl_map]
  rfl

/--
Two well-formed frames of which the same bytes have been received, up to the
given count of lanes in the terminal word, which stands in the given place.
Only the other lanes of that word may differ, and the annotations.
-/
structure SameBytes (place tail : Nat) (first second : Frame) : Prop where
  wellFormed : first.isWellFormed = true
  alsoWellFormed : second.isWellFormed = true
  length : first.length = place + 1
  terminal : ∀ word ∈ first.words.getLast?, word.bytes.toNat = tail
  alsoTerminal : ∀ word ∈ second.words.getLast?, word.bytes.toNat = tail
  payload : first.words.map Word.payload = second.words.map Word.payload

namespace SameBytes

variable {place tail : Nat} {first second : Frame}

theorem symm (same : SameBytes place tail first second) : SameBytes place tail second first where
  wellFormed := same.alsoWellFormed
  alsoWellFormed := same.wellFormed
  length := by
    have lengths := congrArg List.length same.payload
    rw [List.length_map, List.length_map] at lengths
    exact lengths.symm.trans same.length
  terminal := same.alsoTerminal
  alsoTerminal := same.terminal
  payload := same.payload.symm

/-- The lanes that have been received of the word in a position. -/
def received (place tail position : Nat) : Nat := if position = place then tail else laneCount

/-- What a word of the frame shows are its received lanes. -/
theorem payload_eq {frame : Frame} (wellFormed : frame.isWellFormed = true)
    (length : frame.length = place + 1)
    (terminal : ∀ word ∈ frame.words.getLast?, word.bytes.toNat = tail) {position : Nat}
    {word : Word} (found : frame.words[position]? = some word) :
    word.payload = word.lanes.take (received place tail position) := by
  have ends := ((isWellFormed_iff frame).mp wellFormed).ends_getElem?_iff found
  have count : frame.words.length = place + 1 := length
  unfold Word.payload received
  split
  · rename_i last
    have reached := ends.mp last
    have here : position = place := by omega
    subst here
    have final : frame.words.getLast? = some word := by
      rw [List.getLast?_eq_getElem?, count, Nat.add_sub_cancel, found]
    rw [if_pos rfl, terminal word (by rw [final]; rfl)]
  · rename_i inside
    have away : position ≠ place := by
      intro here
      exact inside (ends.mpr (by omega))
    rw [if_neg away]
    exact (List.take_of_length_le (Nat.le_of_eq word.length_lanes)).symm

/-- The received lanes are the same in every position. -/
theorem lanes (same : SameBytes place tail first second) (config : Config) (position : Nat) :
    (wordAt (first.samples config) position).lanes.take (received place tail position) =
      (wordAt (second.samples config) position).lanes.take (received place tail position) := by
  have shown := congrArg (·[position]?) same.payload
  simp only [List.getElem?_map] at shown
  simp only [wordAt, samples, List.getElem?_map, Option.map_map]
  cases firstAt : first.words[position]? with
  | none =>
      rw [firstAt] at shown
      rw [Option.map_eq_none_iff.mp shown.symm]
  | some one =>
      rw [firstAt] at shown
      obtain ⟨other, secondAt, payload⟩ := Option.map_eq_some_iff.mp shown.symm
      rw [payload_eq same.wellFormed same.length same.terminal firstAt,
        payload_eq same.alsoWellFormed same.symm.length same.alsoTerminal secondAt] at payload
      rw [secondAt]
      exact payload.symm

/-- Frames of the same bytes have the same data in every word that was received in full. -/
theorem data (same : SameBytes place tail first second) (config : Config) {position : Nat}
    (full : position ≠ place ∨ laneCount ≤ tail) :
    (wordAt (first.samples config) position).data =
      (wordAt (second.samples config) position).data := by
  refine Word.data_of_lanes (Word.take_lanes_of_le ?_ (same.lanes config position))
  unfold received
  split
  · rename_i here
    exact full.resolve_left (not_not_intro here)
  · exact Nat.le_refl _

theorem high (same : SameBytes place tail first second) (config : Config) {position : Nat}
    (half : position ≠ place ∨ 2 ≤ tail) :
    (wordAt (first.samples config) position).high =
      (wordAt (second.samples config) position).high := by
  refine Word.high_of_lanes (Word.take_lanes_of_le ?_ (same.lanes config position))
  unfold received
  split
  · rename_i here
    exact half.resolve_left (not_not_intro here)
  · decide

end SameBytes

end Frame

/-! ## The classification -/

/-- How many lanes of the word in a place the classifier reads up to. -/
def Classification.lanesRead : Nat → Nat
  | 0 | 1 | 3 | 8 | 9 | 11 => 4
  | 6 => 2
  | _ => 0

/-- Samples that agree in the lanes that are read in a place look alike there. -/
theorem Sample.alike_of_lanes {one other : Sample} {place count : Nat}
    (config : one.config = other.config)
    (lanes : one.word.lanes.take count = other.word.lanes.take count)
    (read : Classification.lanesRead place ≤ count) : one.Alike other place := by
  have all (full : laneCount ≤ count) : one.word.data = other.word.data :=
    Word.data_of_lanes (Word.take_lanes_of_le full lanes)
  have low (full : laneCount ≤ count) : one.word.low = other.word.low := by
    simp only [Word.low, all full]
  unfold Sample.Alike
  split
  · exact ⟨low read, by rw [config]⟩
  · exact ⟨all read, by rw [config]⟩
  · exact low read
  · exact Word.protocol_of_lanes (Word.take_lanes_of_le read lanes)
  · exact ⟨all read, by rw [config]⟩
  · exact ⟨all read, by rw [config], by rw [config]⟩
  · rw [all read]
  · trivial

namespace Frame

variable {place tail : Nat} {first second : Frame}

theorem SameBytes.alike (same : SameBytes place tail first second) (config : Config)
    (read : Classification.lanesRead place ≤ tail) :
    Header.Alike (first.samples config) (second.samples config) where
  length := by
    have lengths : first.words.length = second.words.length :=
      same.length.trans same.symm.length.symm
    simp only [samples, List.length_map, lengths]
  samples := by
    intro position _ one oneAt other otherAt
    have found {frame : Frame} {sample : Sample}
          (listed : sample ∈ (frame.samples config)[position]?) :
        wordAt (frame.samples config) position = sample.word ∧ sample.config = config := by
      refine ⟨by simp [wordAt, Option.mem_def.mp listed], ?_⟩
      obtain ⟨word, _, rfl⟩ := List.mem_map.mp (List.mem_of_getElem? listed)
      rfl
    obtain ⟨oneWord, oneConfig⟩ := found oneAt
    obtain ⟨otherWord, otherConfig⟩ := found otherAt
    have lanes := same.lanes config position
    rw [oneWord, otherWord] at lanes
    refine Sample.alike_of_lanes (oneConfig.trans otherConfig.symm) lanes ?_
    unfold received
    split
    · rename_i here
      rwa [here]
    · unfold Classification.lanesRead
      split <;> decide

end Frame

/-! ## The route -/

/-- How many lanes of the terminal word have a part in the route if it stands in a place. -/
def Route.lanesRead : Nat → Nat
  | 1 | 11 => 4
  | 9 => 2
  | _ => 0

/-- A position is not that of the terminal word, or enough lanes have been received there. -/
theorem Route.apart_or_read {place tail : Nat} (read : lanesRead place ≤ tail) (position : Nat) :
    position ≠ place ∨ lanesRead position ≤ tail := by
  by_cases here : position = place
  · subst here
    exact Or.inr read
  · exact Or.inl here

namespace Frame.SameBytes

variable {place tail : Nat} {first second : Frame}

theorem length_samples (same : SameBytes place tail first second) (config : Config) :
    (first.samples config).length = place + 1 := by
  rw [samples, List.length_map]
  exact same.length

theorem configAt_eq (same : SameBytes place tail first second) (config : Config)
    (position : Nat) :
    configAt (first.samples config) position = configAt (second.samples config) position := by
  have lengths : first.words.length = second.words.length :=
    same.length.trans same.symm.length.symm
  simp only [configAt, samples, List.getElem?_map, Option.map_map]
  by_cases within : position < first.words.length
  · rw [List.getElem?_eq_getElem within, List.getElem?_eq_getElem (lengths ▸ within)]
    rfl
  · rw [List.getElem?_eq_none (Nat.le_of_not_lt within),
      List.getElem?_eq_none (lengths ▸ Nat.le_of_not_lt within)]

theorem suppressed (same : SameBytes place tail first second) (config : Config)
    (read : Route.lanesRead place ≤ tail) (suppressed : Suppressed (first.samples config)) :
    Suppressed (second.samples config) := by
  obtain ⟨reaches, network, control, pattern⟩ := suppressed
  rw [same.length_samples] at reaches
  have half : 9 ≠ place ∨ 2 ≤ tail := Route.apart_or_read read 9
  refine ⟨by rw [same.symm.length_samples]; exact reaches, ?_, ?_, ?_⟩
  · rw [← network, Word.low, Word.low, same.data config (Or.inl (by omega))]
  · rw [← control, protocol, protocol, same.data config (Or.inl (by omega))]
  · rw [← same.configAt_eq config 9, ← same.high config half]
    exact pattern

theorem forEveryone (same : SameBytes place tail first second) (config : Config)
    (read : Route.lanesRead place ≤ tail) (everyone : ForEveryone (first.samples config)) :
    ForEveryone (second.samples config) := by
  obtain ⟨reaches, high, low⟩ := everyone
  rw [same.length_samples] at reaches
  have full : 1 ≠ place ∨ laneCount ≤ tail := Route.apart_or_read read 1
  refine ⟨by rw [same.symm.length_samples]; exact reaches, ?_, ?_⟩
  · rw [← high, Word.low, Word.low, same.data config (Or.inl (by omega))]
  · rw [← low, same.data config full]

theorem forStation (same : SameBytes place tail first second) (config : Config)
    (read : Route.lanesRead place ≤ tail) (station : ForStation (first.samples config)) :
    ForStation (second.samples config) := by
  obtain ⟨reaches, high, low⟩ := station
  rw [same.length_samples] at reaches
  have full : 1 ≠ place ∨ laneCount ≤ tail := Route.apart_or_read read 1
  refine ⟨by rw [same.symm.length_samples]; exact reaches, ?_, ?_⟩
  · rw [← same.configAt_eq config 0, ← high, Word.low, Word.low,
      same.data config (Or.inl (by omega))]
  · rw [← same.configAt_eq config 1, ← low, same.data config full]

theorem forService (same : SameBytes place tail first second) (config : Config)
    (read : Route.lanesRead place ≤ tail) (service : ForService (first.samples config)) :
    ForService (second.samples config) := by
  obtain ⟨reaches, network, datagram, address, port, service, marked⟩ := service
  rw [same.length_samples] at reaches
  have inside {position : Nat} (before : position < 11) :
      (wordAt (first.samples config) position).data =
        (wordAt (second.samples config) position).data :=
    same.data config (Or.inl (by omega))
  have full : 11 ≠ place ∨ laneCount ≤ tail := Route.apart_or_read read 11
  have lowPort : (wordAt (second.samples config) 9).low =
      (wordAt (first.samples config) 9).low := by
    rw [Word.low, Word.low, inside (by decide)]
  refine ⟨by rw [same.symm.length_samples]; exact reaches, ?_, ?_, ?_, ?_, ?_, ?_⟩
  · rw [← network, Word.low, Word.low, inside (by decide)]
  · rw [← datagram, protocol, protocol, inside (by decide)]
  · rw [← same.configAt_eq config 8, ← address, inside (by decide)]
  · rwa [lowPort]
  · rwa [lowPort, ← same.configAt_eq config 9]
  · rwa [← same.data config full]

/-- Frames of the same bytes take the same route if enough of the terminal word was received. -/
theorem route_eq (same : SameBytes place tail first second) (config : Config)
    (read : Route.lanesRead place ≤ tail) : first.route config = second.route config := by
  have suppressed : Suppressed (first.samples config) ↔ Suppressed (second.samples config) :=
    ⟨same.suppressed config read, same.symm.suppressed config read⟩
  have everyone : ForEveryone (first.samples config) ↔ ForEveryone (second.samples config) :=
    ⟨same.forEveryone config read, same.symm.forEveryone config read⟩
  have station : ForStation (first.samples config) ↔ ForStation (second.samples config) :=
    ⟨same.forStation config read, same.symm.forStation config read⟩
  have service : ForService (first.samples config) ↔ ForService (second.samples config) :=
    ⟨same.forService config read, same.symm.forService config read⟩
  change Route.reference (first.samples config) _ = Route.reference (second.samples config) _
  simp only [Route.reference, suppressed, everyone, station, service]

end Frame.SameBytes

/-! ## Stale lanes that count -/

namespace Overread

/-- A station with a service port and a suppressed control message. -/
def config : Config := { Config.default with servicePorts := (7, 0), suppressed := some ⟨3, 1⟩ }

/-- The words in front of the terminal one: for every station, a control message, a datagram. -/
def header : Nat → List UInt32
  | 1 => [0xffff]
  | 9 => [0, 0, 0, 0x0800, 0, 0, 0x00010000, 0, 0]
  | 11 => [0x0200, 1, 0, 0x0800, 0, 0, 0x00110000, 0, 0, 7, 0]
  | place => List.replicate place 0

/-- The data of a terminal word that agree in the received lanes but are read differently. -/
def data : Nat → Nat → UInt32 × UInt32
  | 0, _ => (0xffff, 0xff00)
  | 1, _ => (0xffffffff, 0xffffff00)
  | 3, _ => (0x0800, 0x08ff)
  | 6, _ => (0x00110000, 0)
  | 8, _ => (0, 0xff)
  | 9, 0 | 9, 1 => (0x03010000, 0x03000000)
  | 9, _ => (7, 0)
  | _, _ => (0, 1)

def frame (place tail : Nat) (data : UInt32) : Frame :=
  ⟨(header place).map Word.full ++ [.terminal data (UInt8.ofNat tail)]⟩

theorem length_header (place : Nat) : (header place).length = place := by
  unfold header
  split
  · rfl
  · rfl
  · rfl
  · exact List.length_replicate

/-- Only lanes of the header are read, and only four of a word. -/
theorem within_of_lanesRead {place tail : Nat} (read : tail < Classification.lanesRead place) :
    place < Header.windowWords ∧ tail < laneCount := by
  unfold Classification.lanesRead at read
  unfold Header.windowWords laneCount
  split at read <;> omega

theorem lanesRead_le (place : Nat) : Route.lanesRead place ≤ Classification.lanesRead place := by
  unfold Route.lanesRead
  split
  · exact Nat.le_refl 4
  · exact Nat.le_refl 4
  · decide
  · exact Nat.zero_le _

/-- The two data agree in the received lanes. -/
theorem lanes_data {place tail : Nat} (read : tail < Classification.lanesRead place) :
    (Word.terminal (data place tail).1 (UInt8.ofNat tail)).lanes.take tail =
      (Word.terminal (data place tail).2 (UInt8.ofNat tail)).lanes.take tail := by
  have every : ∀ place < Header.windowWords, ∀ tail < laneCount,
      tail < Classification.lanesRead place →
        (Word.terminal (data place tail).1 (UInt8.ofNat tail)).lanes.take tail =
          (Word.terminal (data place tail).2 (UInt8.ofNat tail)).lanes.take tail := by
    decide +kernel
  obtain ⟨reached, partly⟩ := within_of_lanesRead read
  exact every place reached tail partly read

/-- Frames made of the two data are frames of the same received bytes. -/
theorem sameBytes {place tail : Nat} (read : tail < Classification.lanesRead place) :
    Frame.SameBytes place tail (frame place tail (data place tail).1)
      (frame place tail (data place tail).2) := by
  have partly : tail < laneCount := (within_of_lanesRead read).2
  have count : (UInt8.ofNat tail).toNat = tail := by
    rw [UInt8.toNat_ofNat']
    exact Nat.mod_eq_of_lt (partly.trans (by decide))
  have isOpen : Open Word.last ((header place).map Word.full) := by
    intro word membership
    obtain ⟨_, _, rfl⟩ := List.mem_map.mp membership
    rfl
  have wellFormed (data : UInt32) : (frame place tail data).isWellFormed = true :=
    (Frame.isWellFormed_iff _).mpr (isOpen.whole rfl)
  have terminal (data : UInt32) :
      ∀ word ∈ (frame place tail data).words.getLast?, word.bytes.toNat = tail := by
    intro word final
    simp only [frame, List.getLast?_append, List.getLast?_singleton, Option.some_or,
      Option.mem_def, Option.some.injEq] at final
    subst final
    exact count
  refine ⟨wellFormed _, wellFormed _, ?_, terminal _, terminal _, ?_⟩
  · simp [Frame.length, frame, length_header]
  · simp only [frame, List.map_append, List.map_cons, List.map_nil]
    congr 2
    change List.take (UInt8.ofNat tail).toNat _ = List.take (UInt8.ofNat tail).toNat _
    rw [count]
    exact lanes_data read

theorem classified_apart {place tail : Nat} (read : tail < Classification.lanesRead place) :
    Classification.ofWords config (frame place tail (data place tail).1).words ≠
      Classification.ofWords config (frame place tail (data place tail).2).words := by
  have every : ∀ place < Header.windowWords, ∀ tail < laneCount,
      tail < Classification.lanesRead place →
        Classification.ofWords config (frame place tail (data place tail).1).words ≠
          Classification.ofWords config (frame place tail (data place tail).2).words := by
    decide +kernel
  obtain ⟨reached, partly⟩ := within_of_lanesRead read
  exact every place reached tail partly read

theorem routed_apart {place tail : Nat} (read : tail < Route.lanesRead place) :
    (frame place tail (data place tail).1).route config ≠
      (frame place tail (data place tail).2).route config := by
  have every : ∀ place < Header.windowWords, ∀ tail < laneCount,
      tail < Route.lanesRead place →
        (frame place tail (data place tail).1).route config ≠
          (frame place tail (data place tail).2).route config := by
    decide +kernel
  obtain ⟨reached, partly⟩ := within_of_lanesRead (read.trans_le (lanesRead_le place))
  exact every place reached tail partly read

end Overread

/--
Received bytes alone settle the classification of a frame exactly if as many
lanes of its terminal word have been received as are read in its place, and
they settle the route exactly if as many have been received as have a part in
it.  A run under one configuration takes these routes and no others.
-/
theorem Frame.overreading (place tail : Nat) :
    ((∀ (config : Config) (first second : Frame), SameBytes place tail first second →
          Classification.ofWords config first.words =
            Classification.ofWords config second.words) ↔
        Classification.lanesRead place ≤ tail) ∧
      ((∀ (config : Config) (first second : Frame), SameBytes place tail first second →
          first.route config = second.route config) ↔ Route.lanesRead place ≤ tail) ∧
      ∀ (S F : Type) [Sink S] [Sink F] (config : Config) (outlets : Outlets S F)
        (actions : List (Action S F)), (∀ action ∈ actions, action.configures = false) →
        (Run.play (.ofOutlets config outlets) actions).Routed config := by
  refine ⟨⟨?_, ?_⟩, ⟨?_, ?_⟩, ?_⟩
  · intro blind
    by_contra unread
    have read : tail < Classification.lanesRead place := Nat.lt_of_not_le unread
    exact Overread.classified_apart read (blind _ _ _ (Overread.sameBytes read))
  · intro read config first second same
    rw [ofWords_eq_read, ofWords_eq_read, (same.alike config read).read_eq]
  · intro blind
    by_contra unread
    have read : tail < Route.lanesRead place := Nat.lt_of_not_le unread
    exact Overread.routed_apart read (blind _ _ _
      (Overread.sameBytes (read.trans_le (Overread.lanesRead_le place))))
  · intro read config first second same
    exact same.route_eq config read
  · intro S F _ _ config outlets actions unwritten
    exact Run.routed_play config outlets actions unwritten

namespace Overread

/--
A control message for another station that ends with its type.  The lanes of
the terminal word behind the type have not been received.
-/
def typed (data : UInt32) : Frame :=
  ⟨[0x0200, 9, 0x02000000, 0x00020800, 0x45000015, 0x4000, 0x40010000, 0x0a000002,
      0x0a000001].map Word.full ++ [.terminal data 1]⟩

/-- Nothing is left in the lanes that were not received. -/
def uncoded : Frame := typed 0x03000000

/-- The suppressed code is left in the first lane that was not received. -/
def stale : Frame := typed 0x03010000

/-- One after the other they pass through a router whose outlets are always ready. -/
def run : Run ScriptedSink (Normalizer ScriptedSink) :=
  .play (.ofOutlets config Run.attentive)
    ((uncoded.words.map some ++ List.replicate 13 none ++ stale.words.map some ++
      List.replicate 13 none).map Action.tick)

/-- The lane that was not received keeps the message from being dropped. -/
theorem stale_code :
    Frame.SameBytes 9 1 uncoded stale ∧
      Classification.ofWords config uncoded.words ≠ Classification.ofWords config stale.words ∧
      uncoded.route config = .drop ∧ stale.route config = .slow ∧
      run.frames = [uncoded.words, stale.words] ∧ run.routes = [.drop, .slow] := by
  have same : Frame.SameBytes 9 1 uncoded stale := by
    constructor <;> decide +kernel
  exact ⟨same, by decide +kernel, by decide +kernel, by decide +kernel, by decide +kernel,
    by decide +kernel⟩

end Overread

end FrameRouter
