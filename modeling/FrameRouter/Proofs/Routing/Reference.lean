import FrameRouter.Proofs.Header.Reading
import FrameRouter.Routing.Rule

/-!
# The reference route

The route that a frame ought to take, said by the places of the frame and the
configurations that met the words there, without a classifier or a table.
-/

namespace FrameRouter

namespace Header

/-- The word in a place of a frame; zero behind its end. -/
def wordAt (frame : List Sample) (place : Nat) : Word :=
  (frame[place]?.map Sample.word).getD .zero

/-- The configuration that met the word in a place of a frame. -/
def configAt (frame : List Sample) (place : Nat) : Config :=
  (frame[place]?.map Sample.config).getD .default

/-- The configurations have no part in the words. -/
theorem wordAt_eq (frame : List Sample) (place : Nat) :
    wordAt frame place = (frame.map Sample.word).getD place .zero := by
  rw [wordAt, List.getD_eq_getElem?_getD, List.getElem?_map]

/-- A control message of the suppressed type and code. -/
structure Suppressed (frame : List Sample) : Prop where
  reaches : 10 ≤ frame.length
  network : (wordAt frame 3).low = 0x0800
  control : protocol (wordAt frame 6) = 1
  pattern : ∃ pattern, (configAt frame 9).suppressed = some pattern ∧
    pattern.typeCode = (wordAt frame 9).high

/-- A frame for every station. -/
structure ForEveryone (frame : List Sample) : Prop where
  reaches : 2 ≤ frame.length
  high : (wordAt frame 0).low = 0xffff
  low : (wordAt frame 1).data = 0xffffffff

/-- A frame for this station. -/
structure ForStation (frame : List Sample) : Prop where
  reaches : 2 ≤ frame.length
  high : (wordAt frame 0).low = (configAt frame 0).mac.high
  low : (wordAt frame 1).data = (configAt frame 1).mac.low

/-- A marked datagram for a service at the local network address. -/
structure ForService (frame : List Sample) : Prop where
  reaches : 12 ≤ frame.length
  network : (wordAt frame 3).low = 0x0800
  datagram : protocol (wordAt frame 6) = 17
  address : (wordAt frame 8).data = (configAt frame 8).ip.bits
  port : (wordAt frame 9).low ≠ 0
  service : (configAt frame 9).servicePorts.1 = (wordAt frame 9).low ∨
    (configAt frame 9).servicePorts.2 = (wordAt frame 9).low
  marked : (wordAt frame 11).data ≠ 0

theorem holds_iff {frame : List Sample} {place : Nat} {test : Sample → Bool} :
    holds frame place test = true ↔
      place < frame.length ∧ test ⟨wordAt frame place, configAt frame place⟩ = true := by
  unfold holds wordAt configAt
  by_cases within : place < frame.length
  · simp [within]
  · simp [within]

end Header

open Header

namespace Classification

theorem isSuppressed_read {frame : List Sample} :
    (read frame).isSuppressed = true ↔ Suppressed frame := by
  simp only [isSuppressed, read, Bool.and_eq_true, holds_iff, beq_iff_eq, Option.any_eq_true]
  constructor
  · rintro ⟨⟨⟨_, network⟩, _, control⟩, reaches, pattern⟩
    exact ⟨reaches, network, control, pattern⟩
  · rintro ⟨reaches, network, control, pattern⟩
    exact ⟨⟨⟨by omega, network⟩, by omega, control⟩, reaches, pattern⟩

theorem isBroadcast_read {frame : List Sample} :
    (read frame).isBroadcast = true ↔ ForEveryone frame := by
  simp only [isBroadcast, read, Bool.and_eq_true, holds_iff, beq_iff_eq]
  constructor
  · rintro ⟨⟨_, high⟩, reaches, low⟩
    exact ⟨reaches, high, low⟩
  · rintro ⟨reaches, high, low⟩
    exact ⟨⟨by omega, high⟩, reaches, low⟩

theorem isLocal_read {frame : List Sample} :
    (read frame).isLocal = true ↔ ForStation frame := by
  simp only [isLocal, read, Bool.and_eq_true, holds_iff, beq_iff_eq]
  constructor
  · rintro ⟨⟨_, high⟩, reaches, low⟩
    exact ⟨reaches, high, low⟩
  · rintro ⟨reaches, high, low⟩
    exact ⟨⟨by omega, high⟩, reaches, low⟩

theorem isFastPath_read {frame : List Sample} :
    (read frame).isFastPath = true ↔ ForService frame := by
  simp only [isFastPath, read, Config.serves, Bool.and_eq_true, Bool.or_eq_true, holds_iff,
    beq_iff_eq, bne_iff_ne]
  constructor
  · rintro ⟨⟨⟨⟨⟨_, network⟩, _, datagram⟩, _, address⟩, _, port, service⟩, reaches, marked⟩
    exact ⟨reaches, network, datagram, address, port, service, marked⟩
  · rintro ⟨reaches, network, datagram, address, port, service, marked⟩
    exact ⟨⟨⟨⟨⟨by omega, network⟩, by omega, datagram⟩, by omega, address⟩, by omega, port,
      service⟩, reaches, marked⟩

end Classification

instance (frame : List Sample) : Decidable (Suppressed frame) :=
  decidable_of_iff _ Classification.isSuppressed_read

instance (frame : List Sample) : Decidable (ForEveryone frame) :=
  decidable_of_iff _ Classification.isBroadcast_read

instance (frame : List Sample) : Decidable (ForStation frame) :=
  decidable_of_iff _ Classification.isLocal_read

instance (frame : List Sample) : Decidable (ForService frame) :=
  decidable_of_iff _ Classification.isFastPath_read

namespace Route

/-- The route that a frame ought to take under a policy. -/
def reference (frame : List Sample) (policy : ForwardPolicy) : Route :=
  if Suppressed frame then
    .slow
  else if ForEveryone frame then
    if policy.broadcast then .both else .slow
  else if ¬ForStation frame then
    if policy.nonLocal then .other else .drop
  else if ForService frame then
    .fast
  else
    .slow

/-- Only a datagram for a service takes the fast path. -/
theorem service_of_reference {frame : List Sample} {policy : ForwardPolicy}
    (fast : reference frame policy = .fast) : ForService frame := by
  unfold reference at fast
  split at fast
  · cases fast
  · split at fast
    · split at fast <;> cases fast
    · split at fast
      · split at fast <;> cases fast
      · split at fast
        · assumption
        · cases fast

/-- The routing table, written as one chain of choices. -/
theorem decide_eq (c : Classification) (policy : ForwardPolicy) :
    decide c policy =
      if c.isSuppressed then
        .slow
      else if c.isBroadcast then
        if policy.broadcast then .both else .slow
      else if !c.isLocal then
        if policy.nonLocal then .other else .drop
      else if c.isFastPath then
        .fast
      else
        .slow := by
  unfold decide Rule.select Rule.table
  cases suppressed : c.isSuppressed <;> cases broadcast : c.isBroadcast <;>
    cases station : c.isLocal <;> cases nonLocal : policy.nonLocal <;>
    cases service : c.isFastPath <;>
    simp [Rule.controlSuppress, Rule.broadcast, Rule.forwardNonLocal, Rule.dropNonLocal,
      Rule.fastPath, Rule.fallback, suppressed, broadcast, station, nonLocal, service]

/-- The routing table decides the reference route. -/
theorem decide_ofSamples (frame : List Sample) (policy : ForwardPolicy) :
    decide (.ofSamples frame) policy = reference frame policy := by
  rw [Classification.ofSamples_eq_read, decide_eq]
  simp only [reference, Classification.isSuppressed_read, Classification.isBroadcast_read,
    Bool.not_eq_true', ← Bool.not_eq_true, Classification.isLocal_read,
    Classification.isFastPath_read]

end Route

/-- Two samples of which a place of the header shows the same to the rules. -/
def Sample.Alike (first second : Sample) : Nat → Prop
  | 0 => first.word.low = second.word.low ∧ first.config.mac.high = second.config.mac.high
  | 1 => first.word.data = second.word.data ∧ first.config.mac.low = second.config.mac.low
  | 3 => first.word.low = second.word.low
  | 6 => protocol first.word = protocol second.word
  | 8 => first.word.data = second.word.data ∧ first.config.ip = second.config.ip
  | 9 => first.word.data = second.word.data ∧
      first.config.servicePorts = second.config.servicePorts ∧
      first.config.suppressed = second.config.suppressed
  | 11 => first.word.data = 0 ↔ second.word.data = 0
  | _ => True

/-- Two frames that end at the same place of the header, or behind it, and look alike there. -/
structure Header.Alike (first second : List Sample) : Prop where
  length : min first.length windowWords = min second.length windowWords
  samples : ∀ place, place < windowWords → ∀ one ∈ first[place]?, ∀ other ∈ second[place]?,
    one.Alike other place

/-- A test that sees only what is alike has the same outcome in both frames. -/
theorem Header.Alike.holds_eq {first second : List Sample} (alike : Alike first second)
    {place : Nat} (within : place < windowWords) {test : Sample → Bool}
    (blind : ∀ one other : Sample, one.Alike other place → test one = test other) :
    holds first place test = holds second place test := by
  have lengths := alike.length
  unfold holds
  by_cases reached : place < first.length
  · have alsoReached : place < second.length := by omega
    have here := alike.samples place within first[place] (List.getElem?_eq_getElem reached)
      second[place] (List.getElem?_eq_getElem alsoReached)
    rw [List.getElem?_eq_getElem reached, List.getElem?_eq_getElem alsoReached]
    exact blind _ _ here
  · have neither : second.length ≤ place := by omega
    rw [List.getElem?_eq_none (Nat.le_of_not_lt reached), List.getElem?_eq_none neither]

/-- Frames that look alike are classified alike. -/
theorem Header.Alike.read_eq {first second : List Sample} (alike : Alike first second) :
    Classification.read first = Classification.read second := by
  simp only [Classification.read, Classification.mk.injEq]
  refine ⟨?_, ?_, ?_, ?_, ?_, ?_, ?_, ?_, ?_, ?_, ?_, alike.length⟩ <;>
    refine alike.holds_eq (by decide) fun one other same => ?_
  · rw [same.1, same.2]
  · rw [same.1, same.2]
  · rw [same.1]
  · rw [same.1]
  · exact congrArg (· == ipv4Ethertype) same
  · exact congrArg (· == udpProtocol) same
  · exact congrArg (· == icmpProtocol) same
  · rw [same.1, same.2]
  · simp only [Config.serves, destinationPort, Word.low, same.1, same.2.1]
  · simp only [icmpTypeCode, Word.high, same.1, same.2.2]
  · rw [Bool.eq_iff_iff, bne_iff_ne, bne_iff_ne]
    exact not_congr same

/-- Nothing but what makes frames alike has a part in their routes. -/
theorem Route.reference_congr {first second : List Sample} (alike : Header.Alike first second)
    (policy : ForwardPolicy) : reference first policy = reference second policy := by
  rw [← decide_ofSamples, ← decide_ofSamples, Classification.ofSamples_eq_read,
    Classification.ofSamples_eq_read, alike.read_eq]

end FrameRouter
