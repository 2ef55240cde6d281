import FrameRouter.Proofs.Sink.Filling

/-!
# Trimmed frames

A normalizer counts the network packets that reach behind their declared end
and those that end in front of it.  A packet of the first kind is counted when
its further words begin to be swallowed, so that while they are the count is one
ahead of the whole frames.
-/

namespace FrameRouter

open Cutting Normalization

namespace Normalization

/-- A network packet with words behind its end. -/
def IsOverlong (frame : List Word) : Prop := IsNetwork frame ∧ reach frame < frame.length

/-- A network packet that lacks words of its declared length. -/
def IsCurtailed (frame : List Word) : Prop :=
  IsNetwork frame ∧ frame.length < (extent frame).words

instance : DecidablePred IsOverlong := fun _ => inferInstanceAs (Decidable (_ ∧ _))

instance : DecidablePred IsCurtailed := fun _ => inferInstanceAs (Decidable (_ ∧ _))

variable {rest : List Word} {stage : Normalizing}

/-- Words are swallowed exactly behind the end of an open network packet. -/
theorem Fits.swallowing_iff (fits : Fits rest stage) :
    stage = .swallowing ↔ IsNetwork rest ∧ reach rest ≤ rest.length := by
  cases fits with
  | header unknown => simp [unknown]
  | body network inside =>
      have before : ¬reach rest ≤ rest.length :=
        Nat.not_le_of_lt (Nat.lt_of_lt_of_le inside (Nat.le_max_left _ _))
      simp [before]
  | swallowing network past => simp [network, past]
  | filling count tail nothing => simp [nothing, IsNetwork]

/-- One more word makes a frame overlong exactly if it had reached its end before. -/
theorem isOverlong_append (word : Word) :
    IsOverlong (rest ++ [word]) ↔ IsNetwork rest ∧ reach rest ≤ rest.length := by
  have length : (rest ++ [word]).length = rest.length + 1 := by simp
  constructor
  · rintro ⟨network, past⟩
    have fifth : 5 ≤ reach (rest ++ [word]) := Nat.le_max_right _ _
    have known : IsNetwork rest := by
      refine ⟨by omega, ?_⟩
      rw [← getD_append_of_lt (by omega)]
      exact network.2
    refine ⟨known, ?_⟩
    have same : reach (rest ++ [word]) = reach rest := by
      rw [reach, (known.append word).2, reach]
    omega
  · rintro ⟨network, past⟩
    obtain ⟨further, same⟩ := network.append word
    refine ⟨further, ?_⟩
    rw [reach, same, length]
    exact Nat.lt_succ_of_le past

theorem isCurtailed_iff (frame : List Word) : IsCurtailed frame ↔ missing frame ≠ 0 := by
  unfold IsCurtailed missing
  split
  · rename_i network
    simp only [network, true_and]
    omega
  · rename_i unknown
    simp [unknown]

end Normalization

namespace Normalizer

variable {S : Type}

/-- What a normalizer has counted of the frames that it has taken. -/
structure Tallies (normalizer : Normalizer S) (words : List Word) : Prop where
  truncations : normalizer.truncations =
    (complete Word.last words).countP (fun frame => IsOverlong frame) +
      if normalizer.stage = .swallowing then 1 else 0
  extensions : normalizer.extensions =
    (complete Word.last words).countP fun frame => IsCurtailed frame

/-- A normalizer that agrees with the words taken, and has counted their frames. -/
def Tallied (normalizer : Normalizer S) (words : List Word) : Prop :=
  normalizer.Normalizes (fun _ _ => True) words ∧ normalizer.Tallies words

theorem tallied_around (inner : S) : (around inner).Tallied [] :=
  ⟨normalizes_around trivial, rfl, rfl⟩

variable [Sink S]

/-- A word is counted with which words begin to be swallowed, or to be owed. -/
theorem push_counters (normalizer : Normalizer S) (word : Word)
    (settled : owed normalizer.stage = []) :
    (Sink.push normalizer word).truncations = normalizer.truncations +
        (if normalizer.stage ≠ .swallowing ∧ (accept word normalizer.stage).2 = .swallowing then 1
        else 0) ∧
      (Sink.push normalizer word).extensions = normalizer.extensions +
        if owed (accept word normalizer.stage).2 = [] then 0 else 1 := by
  change (normalizer.push word).truncations = _ ∧ (normalizer.push word).extensions = _
  unfold push
  generalize accept word normalizer.stage = result
  obtain ⟨passed, next⟩ := result
  cases stage : normalizer.stage with
  | filling count tail =>
      rw [stage] at settled
      exact absurd settled (owed_filling_ne_nil count tail)
  | header => cases next <;> simp [owed, Normalization.fill]
  | body => cases next <;> simp [owed, Normalization.fill]
  | swallowing => cases next <;> simp [owed, Normalization.fill]

/-- A tick counts nothing, and words are swallowed behind it if they were in front of it. -/
theorem tick_counters (normalizer : Normalizer S) :
    (Sink.tick normalizer).truncations = normalizer.truncations ∧
      (Sink.tick normalizer).extensions = normalizer.extensions ∧
      ((Sink.tick normalizer).stage = .swallowing ↔ normalizer.stage = .swallowing) := by
  rcases normalizer.tick_spec with ⟨count, tail, stage, _, ticked⟩ | ⟨_, ticked⟩
  · rw [ticked, stage]
    refine ⟨rfl, rfl, ?_⟩
    split <;> simp [Normalizing.start]
  · rw [ticked]
    exact ⟨rfl, rfl, Iff.rfl⟩

/-- A word that is taken keeps the tallies. -/
theorem Tallies.push {normalizer : Normalizer S} {words passed : List Word}
    (tallies : normalizer.Tallies words) (accounts : normalizer.stage.Accounts words passed)
    (settled : owed normalizer.stage = []) (word : Word) :
    (Sink.push normalizer word).Tallies (words ++ [word]) := by
  have fits := accounts.fits
  have swallowing := fits.swallowing_iff
  have further := (accounts.take settled word).fits.swallowing_iff
  have owes := length_owed_accept fits settled word
  obtain ⟨truncations, extensions⟩ := normalizer.push_counters word settled
  have stage := (normalizer.push_spec word).1
  cases ended : word.last with
  | false =>
      obtain ⟨frames, rest⟩ := complete_append_open words ended
      rw [rest] at further
      -- A frame that has reached its end before goes on to be swallowed.
      have goes : normalizer.stage = .swallowing →
          (accept word normalizer.stage).2 = .swallowing := by
        intro before
        obtain ⟨network, past⟩ := (isOverlong_append word).mpr (swallowing.mp before)
        exact further.mpr ⟨network, past.le⟩
      rw [ended, if_neg (by decide), List.length_eq_zero_iff] at owes
      constructor
      · rw [truncations, stage, frames, tallies.truncations]
        by_cases before : normalizer.stage = .swallowing
        · rw [if_pos before, if_pos (goes before), if_neg fun begins => begins.1 before]
        · simp [before]
      · rw [extensions, frames, owes, tallies.extensions]
        rfl
  | true =>
      obtain ⟨frames, rest⟩ := complete_append_whole words ended
      rw [rest] at further
      have passing : (accept word normalizer.stage).2 ≠ .swallowing := by
        intro still
        exact absurd (further.mp still).1 (by decide)
      constructor
      · rw [truncations, stage, frames, tallies.truncations, List.countP_append,
          List.countP_singleton]
        simp only [passing, and_false, if_false, isOverlong_append, ← swallowing, decide_eq_true_eq]
      · rw [extensions, frames, tallies.extensions, List.countP_append, List.countP_singleton]
        rw [ended, if_pos rfl] at owes
        simp only [decide_eq_true_eq, isCurtailed_iff, ← owes, ne_eq, List.length_eq_zero_iff]
        by_cases none : owed (accept word normalizer.stage).2 = [] <;> simp [none]

/-- A normalizer goes on to count what it takes. -/
theorem tracks_tallied : Tracks (Tallied : Normalizer S → List Word → Prop) where
  push := by
    rintro normalizer words word ⟨normalizes, tallies⟩ isReady
    refine ⟨(tracks_normalizes .trivial).push word normalizes isReady, ?_⟩
    obtain ⟨passed, _, accounts⟩ := normalizes
    exact tallies.push accounts (ready_spec isReady word).1 word
  tick := by
    rintro normalizer words ⟨normalizes, tallies⟩
    refine ⟨(tracks_normalizes .trivial).tick normalizes, ?_⟩
    obtain ⟨truncations, extensions, swallowing⟩ := normalizer.tick_counters
    constructor
    · rw [truncations, tallies.truncations]
      simp only [swallowing]
    · rw [extensions, tallies.extensions]

end Normalizer

end FrameRouter
