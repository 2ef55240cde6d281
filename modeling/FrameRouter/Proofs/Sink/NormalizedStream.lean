import FrameRouter.Proofs.Sink.Normalization
import FrameRouter.Proofs.Sink.Observed

/-!
# Normalised streams

The sink behind a normalizer receives the normalised frames of the stream that
the normalizer takes, in their order.  All that it can lack of the whole
frames are zero words still owed, and while any is owed no further word is
taken.
-/

namespace FrameRouter

open Cutting Normalization

/-- The stage, the words taken and the words passed on agree. -/
structure Normalizing.Accounts (stage : Normalizing) (words passed : List Word) : Prop where
  account : passed ++ owed stage =
    (complete Word.last words).flatMap whole ++ begun (remainder Word.last words)
  fits : Fits (remainder Word.last words) stage

/-- The sink behind a normalizer is related to what becomes of the words that it has taken. -/
def Normalizer.Normalizes {S : Type} (relation : S → List Word → Prop)
    (normalizer : Normalizer S) (words : List Word) : Prop :=
  ∃ passed, relation normalizer.inner passed ∧ normalizer.stage.Accounts words passed

namespace Normalizing.Accounts

variable {stage : Normalizing} {words passed : List Word}

/-- Behind whole frames, of which nothing is owed, exactly they have been passed on. -/
theorem of_flatten {frames : List (List Word)}
    (accounts : stage.Accounts frames.flatten passed)
    (isWhole : ∀ frame ∈ frames, Whole Word.last frame) (settled : owed stage = []) :
    passed = frames.flatMap whole := by
  have account := accounts.account
  have isOpen : Open Word.last [] := Open.nil
  obtain ⟨cut, rest⟩ := complete_remainder isWhole isOpen
  rw [List.append_nil] at cut rest
  rw [settled, List.append_nil, cut, rest] at account
  simpa [begun, IsNetwork] using account

theorem start : Normalizing.start.Accounts [] [] where
  account := rfl
  fits := Fits.start

/-- A word that is taken is passed on, swallowed or followed by owed words. -/
theorem take (accounts : stage.Accounts words passed) (settled : owed stage = []) (word : Word) :
    (Normalizer.accept word stage).2.Accounts (words ++ [word])
      (passed ++ (Normalizer.accept word stage).1.toList) := by
  have account := accounts.account
  rw [settled, List.append_nil] at account
  have advances := accept_advances accounts.fits settled word
  generalize Normalizer.accept word stage = result at advances
  cases advances with
  | inside unended fits further nothing =>
      obtain ⟨frames, rest⟩ := complete_append_open words unended
      rw [← rest] at fits further
      refine ⟨?_, fits⟩
      rw [nothing, List.append_nil, frames, further, account, List.append_assoc]
  | final ended fits further =>
      obtain ⟨frames, rest⟩ := complete_append_whole words ended
      rw [← rest] at fits
      refine ⟨?_, fits⟩
      have nothing : begun [] = [] := by decide
      rw [frames, rest, List.flatMap_append, List.flatMap_singleton, further, account, nothing]
      simp

/-- The owed words are the next one and those owed behind it. -/
theorem owed_filling {count : Nat} (tail : UInt8) (positive : 0 < count) :
    owed (.filling count tail) = Normalizer.fillWord count tail ::
      owed (if count ≤ 1 then .start else .filling (count - 1) tail) := by
  match count, positive with
  | 1, _ => rfl
  | count + 2, _ =>
      simp [owed, Normalization.fill, Normalizer.fillWord, List.replicate_succ]

theorem count_pos {count : Nat} {tail : UInt8}
    (accounts : (Normalizing.filling count tail).Accounts words passed) : 0 < count := by
  cases accounts.fits with
  | filling _ _ _ positive => exact positive

theorem fill {count : Nat} {tail : UInt8}
    (accounts : (Normalizing.filling count tail).Accounts words passed) :
    (if count ≤ 1 then Normalizing.start else .filling (count - 1) tail).Accounts words
      (passed ++ [Normalizer.fillWord count tail]) := by
  obtain ⟨account, fits⟩ := accounts
  cases fits with
  | filling _ _ nothing positive =>
      rw [owed_filling tail positive] at account
      refine ⟨?_, ?_⟩
      · rw [List.append_assoc]
        exact account
      · split
        · rw [nothing]
          exact Fits.start
        · exact .filling _ _ nothing (by omega)

end Normalizing.Accounts

namespace Normalizer

variable {S T : Type}

theorem normalizes_around {relation : S → List Word → Prop} {inner : S}
    (initially : relation inner []) : (around inner).Normalizes relation [] :=
  ⟨[], initially, .start⟩

variable [Sink S]

/-- A normalizer is ready when it owes nothing and whatever it would pass on can be taken. -/
theorem ready_spec {normalizer : Normalizer S} (isReady : Sink.ready normalizer = true)
    (word : Word) :
    owed normalizer.stage = [] ∧
      ((accept word normalizer.stage).1 = none ∨ Sink.ready normalizer.inner = true) := by
  change normalizer.ready = true at isReady
  unfold ready at isReady
  cases stage : normalizer.stage with
  | header =>
      rw [stage] at isReady
      exact ⟨rfl, Or.inr isReady⟩
  | body =>
      rw [stage] at isReady
      exact ⟨rfl, Or.inr isReady⟩
  | swallowing => exact ⟨rfl, Or.inl rfl⟩
  | filling =>
      rw [stage] at isReady
      cases isReady

/-- While words are owed, no word is taken. -/
theorem not_ready_of_owed {normalizer : Normalizer S} (unsettled : owed normalizer.stage ≠ []) :
    Sink.ready normalizer = false := by
  by_contra isReady
  exact unsettled (ready_spec (Bool.not_eq_false _ ▸ isReady) .zero).1

theorem owed_of_isIdle {normalizer : Normalizer S} (idle : Sink.isIdle normalizer = true) :
    owed normalizer.stage = [] := by
  change normalizer.isIdle = true at idle
  unfold isIdle at idle
  cases stage : normalizer.stage with
  | filling =>
      rw [stage] at idle
      cases idle
  | header => rfl
  | body => rfl
  | swallowing => rfl

/-- A tick hands over one owed word to a sink that is ready, and otherwise no word. -/
theorem tick_spec (normalizer : Normalizer S) :
    (∃ count tail, normalizer.stage = .filling count tail ∧
      Sink.ready normalizer.inner = true ∧
      Sink.tick normalizer =
        { normalizer with
          inner := Sink.tick (Sink.push normalizer.inner (fillWord count tail))
          stage := if count ≤ 1 then .start else .filling (count - 1) tail }) ∨
      (owed normalizer.stage = [] ∨ Sink.ready normalizer.inner = false) ∧
        Sink.tick normalizer = { normalizer with inner := Sink.tick normalizer.inner } := by
  obtain ⟨inner, stage, truncations, extensions⟩ := normalizer
  cases stage with
  | filling count tail =>
      change (∃ _ _, _ ∧ _ ∧ tick _ = _) ∨ (_ ∨ _) ∧ tick _ = _
      unfold tick fill
      cases Sink.ready inner with
      | false => exact Or.inr ⟨Or.inr rfl, by simp⟩
      | true => exact Or.inl ⟨count, tail, rfl, rfl, by simp⟩
  | header => exact Or.inr ⟨Or.inl rfl, rfl⟩
  | body => exact Or.inr ⟨Or.inl rfl, rfl⟩
  | swallowing => exact Or.inr ⟨Or.inl rfl, rfl⟩

/-- Where no word is owed, a tick only passes to the sink behind. -/
theorem tick_of_settled {normalizer : Normalizer S} (settled : owed normalizer.stage = []) :
    Sink.tick normalizer = { normalizer with inner := Sink.tick normalizer.inner } := by
  rcases normalizer.tick_spec with ⟨count, tail, stage, _, _⟩ | ⟨_, ticked⟩
  · rw [stage] at settled
    exact absurd settled (owed_filling_ne_nil count tail)
  · exact ticked

/-- What a tick hands over: the next owed word, if the sink behind is ready. -/
def handed (normalizer : Normalizer S) : List Word :=
  if Sink.ready normalizer.inner then (owed normalizer.stage).take 1 else []

/-- What a tick hands over goes to the sink behind and is no longer owed. -/
theorem handed_tick {normalizer : Normalizer S} {words passed : List Word}
    (accounts : normalizer.stage.Accounts words passed) :
    (Sink.tick normalizer).inner =
        Sink.tick (normalizer.handed.foldl Sink.push normalizer.inner) ∧
      normalizer.handed ++ owed (Sink.tick normalizer).stage = owed normalizer.stage := by
  rcases normalizer.tick_spec with ⟨count, tail, stage, isReady, ticked⟩ | ⟨held, ticked⟩
  · rw [stage] at accounts
    have positive : 0 < count := accounts.count_pos
    have handed : normalizer.handed = [fillWord count tail] := by
      rw [Normalizer.handed, if_pos isReady, stage,
        Normalizing.Accounts.owed_filling tail positive]
      rfl
    rw [ticked, handed, stage, Normalizing.Accounts.owed_filling tail positive]
    exact ⟨rfl, rfl⟩
  · have handed : normalizer.handed = [] := by
      rcases held with settled | closed
      · rw [Normalizer.handed, settled, List.take_nil, ite_self]
      · rw [Normalizer.handed, if_neg (by rw [closed]; exact Bool.false_ne_true)]
    rw [ticked, handed]
    exact ⟨rfl, rfl⟩

/-- Taking a word moves the stage and hands on the word that comes out, if there is one. -/
theorem push_spec (normalizer : Normalizer S) (word : Word) :
    (Sink.push normalizer word).stage = (accept word normalizer.stage).2 ∧
      ((accept word normalizer.stage).1 = none →
        (Sink.push normalizer word).inner = normalizer.inner) ∧
      ∀ out, (accept word normalizer.stage).1 = some out →
        (Sink.push normalizer word).inner = Sink.push normalizer.inner out := by
  change (normalizer.push word).stage = _ ∧ (_ → (normalizer.push word).inner = _) ∧
    ∀ out, _ → (normalizer.push word).inner = _
  unfold push
  refine ⟨rfl, ?_, ?_⟩
  · intro nothing
    simp only [nothing]
  · intro out some
    simp only [some]

/-- A normalizer tracks what the sink behind it tracks. -/
theorem tracks_normalizes {relation : S → List Word → Prop} (tracks : Tracks relation) :
    Tracks (Normalizes relation) where
  push := by
    rintro normalizer words word ⟨passed, related, accounts⟩ isReady
    obtain ⟨settled, free⟩ := ready_spec isReady word
    obtain ⟨stage, discarded, handed⟩ := normalizer.push_spec word
    have next := accounts.take settled word
    rw [← stage] at next
    refine ⟨_, ?_, next⟩
    cases result : (accept word normalizer.stage).1 with
    | none =>
        rw [discarded result, Option.toList_none, List.append_nil]
        exact related
    | some out =>
        have innerReady : Sink.ready normalizer.inner = true := by
          simpa [result] using free
        rw [handed out result]
        exact tracks.push out related innerReady
  tick := by
    rintro normalizer words ⟨passed, related, accounts⟩
    rcases normalizer.tick_spec with ⟨count, tail, stage, innerReady, ticked⟩ | ⟨_, ticked⟩
    · rw [stage] at accounts
      rw [ticked]
      exact ⟨_, tracks.tick (tracks.push _ related innerReady), accounts.fill⟩
    · rw [ticked]
      exact ⟨passed, tracks.tick related, accounts⟩

end Normalizer

end FrameRouter
