import FrameRouter.Header.Classification
import Mathlib.Data.List.Induction
import Mathlib.Tactic.IntervalCases

/-!
# Reading a header

The flags of a classification, collected word by word, are those read off the
places of the frame at once: each flag from one place, under the configuration
that met the word in that place.
-/

namespace FrameRouter

/-- A word with the configuration in force in the tick that accepted it. -/
structure Sample where
  word : Word
  config : Config
deriving DecidableEq, Repr

def Sample.ends (sample : Sample) : Bool := sample.word.last

/-- The classification built up by words, each under its own configuration. -/
def Classification.ofSamples (samples : List Sample) : Classification :=
  samples.foldl (fun c sample => c.observe sample.config sample.word) .start

@[simp]
theorem Classification.ofSamples_append (samples : List Sample) (sample : Sample) :
    ofSamples (samples ++ [sample]) =
      (ofSamples samples).observe sample.config sample.word := by
  simp [ofSamples]

/-- Whether a frame reaches a place and the sample there passes a test. -/
def holds (samples : List Sample) (place : Nat) (test : Sample → Bool) : Bool :=
  samples[place]?.any test

theorem holds_append (samples : List Sample) (sample : Sample) (place : Nat)
    (test : Sample → Bool) :
    holds (samples ++ [sample]) place test =
      if samples.length = place then test sample else holds samples place test := by
  unfold holds
  split
  · rename_i here
    subst here
    simp
  · rename_i elsewhere
    rcases Nat.lt_or_gt_of_ne elsewhere with behind | before
    · rw [List.getElem?_eq_none (by simpa using Nat.succ_le_of_lt behind),
        List.getElem?_eq_none behind.le]
    · rw [List.getElem?_append_left before]

/-- The classification read off the places of a frame. -/
def Classification.read (samples : List Sample) : Classification where
  macHigh := holds samples 0 fun sample => sample.word.low == sample.config.mac.high
  macLow := holds samples 1 fun sample => sample.word.data == sample.config.mac.low
  broadcastHigh := holds samples 0 fun sample => sample.word.low == Mac.broadcast.high
  broadcastLow := holds samples 1 fun sample => sample.word.data == Mac.broadcast.low
  ipv4 := holds samples 3 fun sample => Header.ethertype sample.word == Header.ipv4Ethertype
  udp := holds samples 6 fun sample => Header.protocol sample.word == Header.udpProtocol
  icmp := holds samples 6 fun sample => Header.protocol sample.word == Header.icmpProtocol
  ipMatch := holds samples 8 fun sample => sample.word.data == sample.config.ip.bits
  portMatch := holds samples 9 fun sample =>
    sample.config.serves (Header.destinationPort sample.word)
  icmpMatch := holds samples 9 fun sample => sample.config.suppressed.any fun pattern =>
    pattern.typeCode == Header.icmpTypeCode sample.word
  marker := holds samples 11 fun sample => sample.word.data != 0
  wordsSeen := min samples.length Header.windowWords

namespace Classification

/-- One more sample is observed at the place behind the others. -/
theorem read_append (samples : List Sample) (sample : Sample) :
    read (samples ++ [sample]) = (read samples).observe sample.config sample.word := by
  by_cases short : samples.length < Header.windowWords
  · have seen : (read samples).wordsSeen = samples.length := Nat.min_eq_left short.le
    unfold observe
    rw [seen, if_pos short]
    have place : samples.length < 12 := short
    simp only [read, holds_append, List.length_append, List.length_singleton,
      Nat.min_eq_left short.le, Nat.min_eq_left (Nat.succ_le_of_lt short)]
    -- At each of the twelve places the classifier settles the flags of that place only.
    generalize samples.length = length at place
    interval_cases length <;> rfl
  · have filled : Header.windowWords ≤ samples.length := Nat.le_of_not_lt short
    have seen : (read samples).wordsSeen = Header.windowWords := Nat.min_eq_right filled
    unfold observe
    rw [seen, if_neg (Nat.lt_irrefl _)]
    have away {place : Nat} (within : place < 12) : samples.length ≠ place :=
      (Nat.lt_of_lt_of_le within filled).ne'
    simp only [read, holds_append, List.length_append, List.length_singleton,
      Nat.min_eq_right filled, Nat.min_eq_right (Nat.le_succ_of_le filled)]
    simp [away]

/-- Collecting the flags word by word is reading them off the frame. -/
theorem ofSamples_eq_read (samples : List Sample) : ofSamples samples = read samples := by
  induction samples using List.reverseRecOn with
  | nil => rfl
  | append_singleton samples sample ih => rw [ofSamples_append, ih, read_append]

/-- Words behind the header window leave the classification as it is. -/
theorem ofSamples_append_of_window {samples : List Sample} (sample : Sample)
    (filled : Header.windowWords ≤ samples.length) :
    ofSamples (samples ++ [sample]) = ofSamples samples := by
  have seen : (ofSamples samples).wordsSeen = Header.windowWords := by
    rw [ofSamples_eq_read]
    exact Nat.min_eq_right filled
  simp [observe, seen]

end Classification

end FrameRouter
