import FrameRouter.Proofs.Sink.NormalizedStream

/-!
# Filling up

Behind its terminal word a frame is owed as many zero words as it lacks of its
declared length.  A sink that is ready gets one of them in every tick.
-/

namespace FrameRouter

namespace Normalization

/-- The words that a frame lacks of its declared length. -/
def missing (frame : List Word) : Nat :=
  if IsNetwork frame then (extent frame).words - frame.length else 0

theorem length_fill {count : Nat} (positive : 0 < count) (tail : UInt8) :
    (fill count tail).length = count := by
  simp only [fill, List.length_append, List.length_replicate, List.length_singleton]
  omega

theorem length_cut (frame : List Word) (reached : reach frame ≤ frame.length) :
    (cut frame).length = reach frame := by
  have positive : 5 ≤ reach frame := Nat.le_max_right _ _
  simp only [cut, List.length_append, List.length_map, List.length_take, List.length_singleton]
  omega

theorem length_extend {frame : List Word} (nonempty : frame ≠ [])
    (short : frame.length < (extent frame).words) :
    (extend frame).length = (extent frame).words := by
  have positive := List.length_pos_iff.mpr nonempty
  simp only [extend, List.length_append, List.length_map, List.length_dropLast, List.length_cons,
    length_fill (Nat.sub_pos_of_lt short)]
  omega

variable {rest : List Word} {word : Word} {stage : Normalizing}

/-- What has not been passed on of a frame that is not swallowed are its missing words. -/
theorem length_whole_append (word : Word)
    (before : ¬IsNetwork rest ∨ rest.length < reach rest) :
    (begun rest).length = rest.length ∧
      (whole (rest ++ [word])).length = rest.length + 1 + missing (rest ++ [word]) := by
  have length : (rest ++ [word]).length = rest.length + 1 := by simp
  have sofar : begun rest = rest.map strip := by
    rcases before with unknown | inside
    · exact begun_of_not unknown
    · exact begun_of_lt inside
  refine ⟨by rw [sofar, List.length_map], ?_⟩
  unfold whole missing
  split
  · rename_i network
    have bound : reach (rest ++ [word]) = max (extent (rest ++ [word])).words 5 := rfl
    split
    · rename_i reached
      -- A packet whose end was not reached before ends exactly with this word.
      have late : rest.length < reach (rest ++ [word]) := by
        by_cases known : IsNetwork rest
        · have inside := before.resolve_left (fun unknown => unknown known)
          rw [reach, (known.append word).2]
          exact inside
        · have fifth : rest.length < 5 := by
            refine Nat.lt_of_not_le fun long => known ⟨long, ?_⟩
            rw [← getD_append_of_lt (by omega)]
            exact network.2
          omega
      rw [length_cut _ reached]
      omega
    · rename_i unreached
      have long := network.1
      rw [length_extend (by simp) (by omega)]
      omega
  · simp

/-- A word that does not end its frame leaves nothing owed, the terminal one what is missing. -/
theorem length_owed_accept (fits : Fits rest stage) (settled : owed stage = []) (word : Word) :
    (owed (Normalizer.accept word stage).2).length =
      if word.last then missing (rest ++ [word]) else 0 := by
  have advances := accept_advances fits settled word
  have passes (before : ¬IsNetwork rest ∨ rest.length < reach rest)
      (passed : (Normalizer.accept word stage).1.toList.length = 1) :
      (owed (Normalizer.accept word stage).2).length =
        if word.last then missing (rest ++ [word]) else 0 := by
    obtain ⟨sofar, all⟩ := length_whole_append word before
    generalize Normalizer.accept word stage = result at advances passed
    cases advances with
    | inside unended _ _ nothing => simp [unended, nothing]
    | final ended _ account =>
        dsimp only at passed ⊢
        rw [account, List.length_append, List.length_append, sofar, passed] at all
        rw [ended, if_pos rfl]
        omega
  cases fits with
  | header unknown =>
      refine passes (Or.inl unknown) ?_
      simp only [Normalizer.accept]
      split <;> split <;> rfl
  | body network inside =>
      refine passes (Or.inr ?_) rfl
      exact Nat.lt_of_lt_of_le inside (Nat.le_max_left _ _)
  | swallowing network past =>
      have nothing : missing (rest ++ [word]) = 0 := by
        obtain ⟨further, same⟩ := network.append word
        have declared : (extent rest).words ≤ reach rest := Nat.le_max_left _ _
        rw [missing, if_pos further, same, List.length_append]
        omega
      rw [nothing, ite_self]
      simp only [Normalizer.accept]
      split <;> rfl
  | filling count tail => exact absurd settled (owed_filling_ne_nil count tail)

end Normalization

namespace Normalizer

open Normalization

variable {S : Type} [Sink S]

/-- In front of a sink that is ready, a tick hands over an owed word if there is one. -/
theorem length_owed_tick {normalizer : Normalizer S} {words passed : List Word}
    (accounts : normalizer.stage.Accounts words passed)
    (isReady : Sink.ready normalizer.inner = true) :
    owed normalizer.stage = [] ∨
      (owed (Sink.tick normalizer).stage).length + 1 = (owed normalizer.stage).length := by
  by_cases settled : owed normalizer.stage = []
  · exact Or.inl settled
  · obtain ⟨_, split⟩ := handed_tick accounts
    have one : normalizer.handed.length = 1 := by
      rw [handed, if_pos isReady, List.length_take]
      exact Nat.min_eq_left (List.length_pos_iff.mpr settled)
    right
    rw [← split, List.length_append, one, Nat.add_comm]

/-- Nothing more is owed behind a tick than in front of it. -/
theorem length_owed_tick_le {normalizer : Normalizer S} {words passed : List Word}
    (accounts : normalizer.stage.Accounts words passed) :
    (owed (Sink.tick normalizer).stage).length ≤ (owed normalizer.stage).length := by
  obtain ⟨_, split⟩ := handed_tick accounts
  rw [← split, List.length_append]
  exact Nat.le_add_left _ _

/-- A normalizer that owes nothing is ready if the sink behind it is. -/
theorem ready_of_settled {normalizer : Normalizer S} (settled : owed normalizer.stage = [])
    (isReady : Sink.ready normalizer.inner = true) : Sink.ready normalizer = true := by
  change normalizer.ready = true
  unfold ready
  cases stage : normalizer.stage with
  | filling count tail =>
      rw [stage] at settled
      exact absurd settled (owed_filling_ne_nil count tail)
  | header => exact isReady
  | body => exact isReady
  | swallowing => rfl

/-- A normalizer that owes nothing has no other work than the sink behind it. -/
theorem isIdle_of_settled {normalizer : Normalizer S} (settled : owed normalizer.stage = []) :
    Sink.isIdle normalizer = Sink.isIdle normalizer.inner := by
  change normalizer.isIdle = _
  unfold isIdle
  cases stage : normalizer.stage with
  | filling count tail =>
      rw [stage] at settled
      exact absurd settled (owed_filling_ne_nil count tail)
  | header => rfl
  | body => rfl
  | swallowing => rfl

end Normalizer

end FrameRouter
