import FrameRouter.Proofs.Engine.Work

/-!
# Strides

What a turn that is not blocked does to the ledger, told so exactly that the
time it takes can be read off: where in its frame the word stands that is
accepted, and where the word that leaves.
-/

namespace FrameRouter

open Cutting

namespace Router

variable {S F : Type} {router after : Router S F} {samples : List Sample}
  {decision : Option Decision} {moved : List Word}

/-- A decided frame that is whole while it leaves has ended within the header window. -/
theorem Flight.within_of_whole {made : Decision}
    (flight : router.Flight samples (some made) moved)
    (whole : Whole Word.last (samples.map Sample.word)) :
    samples.length ≤ Header.windowWords := by
  cases flight with
  | forwarding forwarded =>
      cases forwarded.complete with
      | ended _ _ within => exact within
      | full _ isOpen =>
          obtain ⟨body, final, split, _, ended⟩ := whole
          have openWords : Open Word.last (samples.map Sample.word) := isOpen.map fun _ => rfl
          rw [split] at openWords
          exact absurd (ended.symm.trans (openWords final (by simp))) (by decide)

/-- The frame in flight leaves as long as a word of it is missing behind its decision. -/
theorem Flight.leaving {made : Decision} (flight : router.Flight samples (some made) moved) :
    router.phase = .forwarding made.route := by
  cases flight with
  | forwarding forwarded => exact forwarded.phase

/-- A frame in flight of which nothing was accepted is none. -/
theorem Flight.rested (flight : router.Flight [] decision moved) : router.phase = .idle := by
  cases flight with
  | idle phase => exact phase
  | capturing _ _ _ _ nonempty => exact absurd rfl nonempty
  | deciding _ _ complete => exact absurd rfl complete.ne_nil
  | forwarding forwarded => exact absurd rfl forwarded.complete.ne_nil

/-- No word of a frame leaves in front of its decision. -/
theorem Flight.unmoved (flight : router.Flight samples none moved) : moved = [] := by
  cases flight with
  | idle => rfl
  | capturing => rfl
  | deciding => rfl

variable [Sink S] [Sink F]

/-- A word that is accepted while its own frame leaves goes behind an empty ring. -/
theorem Turn.empty_of_accepted {input : Option Word} {route : Route}
    (turn : Turn router input after true) (forwarding : router.phase = .forwarding route)
    (onward : after.phase = .idle ∨ ∃ leaving, after.phase = .forwarding leaving) :
    router.ring.front? = none := by
  cases turn with
  | begin word idle => cases idle.symm.trans forwarding
  | capture word capturing => cases capturing.symm.trans forwarding
  | exchange leaving word next =>
      -- The next frame has been begun, so the router captures or decides.
      have phase : ∀ begun : Router S F, (begun.capture next).phase ≠ .idle ∧
          ∀ leaving, (begun.capture next).phase ≠ .forwarding leaving := by
        intro begun
        unfold Router.capture
        dsimp only
        split <;> simp
      rcases onward with idle | ⟨leaving, still⟩
      · exact absurd idle (phase _).1
      · exact absurd still ((phase _).2 leaving)
  | pass leaving word _ empty => exact empty

/-- A router comes to rest without the offered word only if there is none. -/
theorem Turn.offered_none {input : Option Word} (turn : Turn router input after false)
    (rested : after.phase = .idle) : input = none := by
  cases turn with
  | rest => rfl
  | decide _ deciding => cases rested
  | stall _ route word forwarding => cases forwarding.symm.trans rested
  | replay _ route word forwarding => cases forwarding.symm.trans rested
  | finish => rfl

end Router

namespace Ledger

/-- A step of the work on the frames: the sample accepted, the word that leaves and the ledger. -/
inductive Stride (ledger : Ledger) :
    Option Sample → Option (Route × Word) → Ledger → Prop where
  /-- A header word is captured. -/
  | capture (sample : Sample) (undecided : ledger.decision = none) (unmoved : ledger.moved = [])
      (short : ledger.current.length < Header.windowWords) :
      Stride ledger (some sample) none (ledger.accept sample)
  | decide (made : Decision) (undecided : ledger.decision = none) (unmoved : ledger.moved = []) :
      Stride ledger none none (ledger.decide made)
  /-- A captured word leaves that does not end the frame. -/
  | replay (made : Decision) (word : Word) (decided : ledger.decision = some made) :
      Stride ledger none (some (made.route, word)) (ledger.move word)
  /-- The captured terminal word leaves, and no frame follows. -/
  | finish (made : Decision) (word : Word) (decided : ledger.decision = some made)
      (all : ledger.current.map Sample.word = ledger.moved ++ [word])
      (within : ledger.current.length ≤ Header.windowWords) :
      Stride ledger none (some (made.route, word)) ((ledger.move word).close made)
  /-- The captured terminal word leaves, and the next frame begins. -/
  | exchange (made : Decision) (word : Word) (sample : Sample)
      (decided : ledger.decision = some made)
      (all : ledger.current.map Sample.word = ledger.moved ++ [word])
      (within : ledger.current.length ≤ Header.windowWords) :
      Stride ledger (some sample) (some (made.route, word))
        (((ledger.move word).close made).accept sample)
  /-- A word behind the header passes through that does not end the frame. -/
  | pass (made : Decision) (sample : Sample) (decided : ledger.decision = some made)
      (all : ledger.current.map Sample.word = ledger.moved)
      (filled : Header.windowWords ≤ ledger.current.length) :
      Stride ledger (some sample) (some (made.route, sample.word))
        ((ledger.accept sample).move sample.word)
  /-- The terminal word passes through. -/
  | conclude (made : Decision) (sample : Sample) (decided : ledger.decision = some made)
      (all : ledger.current.map Sample.word = ledger.moved)
      (filled : Header.windowWords ≤ ledger.current.length) :
      Stride ledger (some sample) (some (made.route, sample.word))
        (((ledger.accept sample).move sample.word).close made)

/-- All samples that the ledger accounts for. -/
def accepted (ledger : Ledger) : List Sample :=
  ledger.passages.flatMap Passage.samples ++ ledger.current

theorem accepted_accept (ledger : Ledger) (sample : Sample) :
    (ledger.accept sample).accepted = ledger.accepted ++ [sample] :=
  (List.append_assoc _ _ _).symm

theorem accepted_leave (ledger : Ledger) (made : Decision) (word : Word) :
    (ledger.leave made word).accepted = ledger.accepted := by
  unfold leave
  split
  · simp [accepted, move, close]
  · rfl

theorem leave_of_last (ledger : Ledger) (made : Decision) {word : Word}
    (ended : word.last = true) : ledger.leave made word = (ledger.move word).close made := by
  rw [leave, if_pos ended]

theorem leave_of_inside (ledger : Ledger) (made : Decision) {word : Word}
    (inside : word.last = false) : ledger.leave made word = ledger.move word := by
  rw [leave, inside]
  rfl

/-- With its terminal word a captured frame leaves whole, and it has ended within the window. -/
theorem Leaves.within {S F : Type} {router : Router S F} {ledger : Ledger} {made : Decision}
    {word : Word} (leaves : ledger.Leaves made word) (ended : word.last = true)
    (flight : router.Flight ledger.current ledger.decision ledger.moved) :
    ledger.current.length ≤ Header.windowWords := by
  rw [leaves.decided] at flight
  refine flight.within_of_whole ?_
  rw [leaves.all ended]
  exact leaves.isOpen.whole ended

variable {S F : Type} [Sink S] [Sink F]
  {relation : Outlets S F → (Outlet → List Word) → Prop} {router after : Router S F}
  {samples : List Sample} {decisions further : List Decision} {ledger next : Ledger}
  {input : Option Word} {exit : Option (Route × Word)} {ticked : Bool}

/-- A word that passes through finds that all accepted words of its frame have left. -/
theorem Leaves.all_moved {made : Decision} {sample : Sample}
    (leaves : (ledger.accept sample).Leaves made sample.word)
    (flight : router.Flight ledger.current ledger.decision ledger.moved)
    (turn : router.Turn input after true)
    (stepped : after.Flight ((ledger.accept sample).leave made sample.word).current
      ((ledger.accept sample).leave made sample.word).decision
      ((ledger.accept sample).leave made sample.word).moved) :
    ledger.current.map Sample.word = ledger.moved := by
  have decided : ledger.decision = some made := leaves.decided
  rw [decided] at flight
  have onward : after.phase = .idle ∨ ∃ leaving, after.phase = .forwarding leaving := by
    cases ended : sample.word.last with
    | true =>
        rw [leave_of_last _ _ ended] at stepped
        exact Or.inl stepped.rested
    | false =>
        rw [leave_of_inside _ _ ended] at stepped
        have still : ((ledger.accept sample).move sample.word).decision = some made := decided
        rw [still] at stepped
        exact Or.inr ⟨made.route, stepped.leaving⟩
  obtain ⟨_, _, _, forwarded⟩ := flight.of_forwarding flight.leaving
  have empty := turn.empty_of_accepted flight.leaving onward
  exact (forwarded.of_empty empty).2.1

/-- What a turn enters into the ledger is a stride, unless the turn is blocked. -/
theorem Entry.stride (entry : ledger.Entry router input exit next)
    (balanced : Balanced relation router samples decisions ledger)
    (turn : router.Turn input after ticked)
    (stepped : Balanced relation after (samples ++ (router.sampled? input ticked).toList) further
      next) (free : ¬router.Blocked input) :
    ledger.Stride (router.sampled? input ticked) exit next := by
  have flight := balanced.flight
  -- The sample is the one by which the ledger has grown.
  have grown : next.accepted = ledger.accepted ++ (router.sampled? input ticked).toList := by
    rw [accepted, accepted, ← balanced.records.samples, ← stepped.records.samples]
  have unsampled (same : next.accepted = ledger.accepted) :
      router.sampled? input ticked = none := by
    rw [same] at grown
    exact Option.toList_eq_nil_iff.mp (List.self_eq_append_right.mp grown)
  have sampled (sample : Sample) (grows : next.accepted = ledger.accepted ++ [sample]) :
      router.sampled? input ticked = some sample := by
    rw [grows] at grown
    exact Option.toList_eq_singleton_iff.mp (List.append_cancel_left grown).symm
  cases entry with
  | blocked nothing => exact absurd nothing free
  | capture sample _ undecided short =>
      rw [sampled sample (accepted_accept ledger sample)]
      rw [undecided] at flight
      exact .capture sample undecided flight.unmoved short
  | decide _ undecided unmoved =>
      rw [unsampled rfl]
      exact .decide router.decision undecided unmoved
  | leave made word leaves =>
      rw [unsampled (accepted_leave ledger made word)]
      cases ended : word.last with
      | false =>
          rw [leave_of_inside ledger made ended]
          exact .replay made word leaves.decided
      | true =>
          rw [leave_of_last ledger made ended]
          exact .finish made word leaves.decided (leaves.all ended) (leaves.within ended flight)
  | exchange made word sample leaves ended =>
      rw [sampled sample (by rw [accepted_accept, accepted_leave]), leave_of_last ledger made ended]
      exact .exchange made word sample leaves.decided (leaves.all ended)
        (leaves.within ended flight)
  | pass made sample filled leaves =>
      have added : router.sampled? input ticked = some sample :=
        sampled sample (by rw [accepted_leave, accepted_accept])
      have accepts : ticked = true := by
        cases ticked with
        | true => rfl
        | false => cases added
      subst accepts
      have all := leaves.all_moved flight turn stepped.flight
      rw [added]
      cases ended : sample.word.last with
      | false =>
          rw [leave_of_inside _ _ ended]
          exact .pass made sample leaves.decided all filled
      | true =>
          rw [leave_of_last _ _ ended]
          exact .conclude made sample leaves.decided all filled

end Ledger

end FrameRouter
