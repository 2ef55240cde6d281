import FrameRouter.Proofs.Engine.CaptureRing
import FrameRouter.Proofs.Engine.Run
import FrameRouter.Proofs.Engine.Turn
import FrameRouter.Proofs.Frame.Cutting

/-!
# The frame in flight

What a router holds of the frame in flight, told by the words of that frame it
has accepted, the decision made about it and the words of it that have left.
Every turn takes this relation to the next.
-/

namespace FrameRouter

/-- The route by which the frame in flight leaves. -/
def Phase.route? : Phase → Option Route
  | .forwarding route => some route
  | _ => none

namespace Router

open Cutting

variable {S F : Type}

/-- The ring holds exactly the accepted words, and they are all classified. -/
structure Captured (router : Router S F) (samples : List Sample) : Prop where
  ring : router.ring.toList = samples.map Sample.word
  captured : router.ring.captured = samples.length
  classification : router.classification = .ofSamples samples
  frameWords : router.frameWords = samples.length

/--
The header is known: the frame has ended within the window, or the window is
full.  The first argument says whether the terminal word is among the samples.
-/
inductive Complete (last : Bool) (samples : List Sample) : Prop where
  | ended (isLast : last = true) (whole : Whole Sample.ends samples)
      (within : samples.length ≤ Header.windowWords)
  | full (unended : last = false) (isOpen : Open Sample.ends samples)
      (filled : Header.windowWords ≤ samples.length)

/-- The frame leaves by a decided route: what has left and what the ring holds are all of it. -/
structure Forwarded (router : Router S F) (samples : List Sample) (decision : Decision)
    (moved : List Word) : Prop where
  phase : router.phase = .forwarding decision.route
  split : samples.map Sample.word = moved ++ router.ring.toList
  complete : Complete router.capturedLast samples
  waiting : router.capturedLast = true → router.ring.toList ≠ []
  classification : router.classification = .ofSamples samples
  frameWords : router.frameWords = samples.length
  decided : decision.route = Route.decide (.ofSamples samples) decision.policy

/--
The frame in flight: the words accepted of it, the decision about it once it
is made, and the words of it that have left.
-/
inductive Flight (router : Router S F) :
    List Sample → Option Decision → List Word → Prop where
  | idle (phase : router.phase = .idle) (ring : router.ring.toList = []) :
      Flight router [] none []
  | capturing {samples : List Sample} (phase : router.phase = .capturing)
      (captured : router.Captured samples) (last : router.capturedLast = false)
      (isOpen : Open Sample.ends samples) (nonempty : samples ≠ [])
      (short : samples.length < Header.windowWords) :
      Flight router samples none []
  | deciding {samples : List Sample} (phase : router.phase = .deciding)
      (captured : router.Captured samples) (complete : Complete router.capturedLast samples)
      (within : samples.length ≤ Header.windowWords) :
      Flight router samples none []
  | forwarding {samples : List Sample} {decision : Decision} {moved : List Word}
      (forwarded : router.Forwarded samples decision moved) :
      Flight router samples (some decision) moved

variable {router : Router S F} {samples : List Sample} {decision : Option Decision}
  {moved : List Word}

theorem Captured.size (captured : router.Captured samples) :
    router.ring.size = samples.length := by
  rw [← CaptureRing.length_toList, captured.ring, List.length_map]

theorem captured_cleared (router : Router S F) : router.cleared.Captured [] where
  ring := rfl
  captured := rfl
  classification := rfl
  frameWords := rfl

theorem Captured.room (captured : router.Captured samples)
    (short : samples.length < Header.windowWords) : router.ring.size < CaptureRing.slotCount := by
  rw [captured.size]
  exact Nat.lt_succ_of_lt short

theorem Captured.capture (captured : router.Captured samples)
    (short : samples.length < Header.windowWords) (word : Word) :
    (router.capture word).Captured (samples ++ [⟨word, router.config⟩]) where
  ring := by
    have stored := router.ring.toList_push word (captured.room short)
    simpa [Router.capture, captured.ring] using stored
  captured := by
    have counted := router.ring.captured_push word (captured.room short)
    simpa [Router.capture, captured.captured] using counted
  classification := by
    simp [Router.capture, captured.classification]
  frameWords := by
    simp [Router.capture, captured.frameWords]

/-- The frame in flight depends on the sinks, the configuration and the counters in nothing. -/
theorem Flight.transfer {T G : Type} {other : Router T G}
    (flight : router.Flight samples decision moved) (phase : other.phase = router.phase)
    (ring : other.ring = router.ring)
    (classification : other.classification = router.classification)
    (capturedLast : other.capturedLast = router.capturedLast)
    (frameWords : other.frameWords = router.frameWords) :
    other.Flight samples decision moved := by
  have transferred {samples : List Sample} (captured : router.Captured samples) :
      other.Captured samples := by
    refine ⟨?_, ?_, ?_, ?_⟩
    · rw [ring, captured.ring]
    · rw [ring, captured.captured]
    · rw [classification, captured.classification]
    · rw [frameWords, captured.frameWords]
  cases flight with
  | idle same empty => exact .idle (phase.trans same) (by rw [ring, empty])
  | capturing same captured last isOpen nonempty short =>
      exact .capturing (phase.trans same) (transferred captured) (capturedLast.trans last) isOpen
        nonempty short
  | deciding same captured complete within =>
      rw [← capturedLast] at complete
      exact .deciding (phase.trans same) (transferred captured) complete within
  | forwarding forwarded =>
      refine .forwarding ⟨phase.trans forwarded.phase, ?_, ?_, ?_, ?_, ?_, forwarded.decided⟩
      · rw [ring]
        exact forwarded.split
      · rw [capturedLast]
        exact forwarded.complete
      · rw [capturedLast, ring]
        exact forwarded.waiting
      · rw [classification, forwarded.classification]
      · rw [frameWords, forwarded.frameWords]

/-- After a captured word the frame is still captured or its header is complete. -/
theorem Flight.capture (captured : router.Captured samples) (last : router.capturedLast = false)
    (isOpen : Open Sample.ends samples) (short : samples.length < Header.windowWords)
    (word : Word) :
    (router.capture word).Flight (samples ++ [⟨word, router.config⟩]) none [] := by
  have next := captured.capture short word
  have capturedLast : (router.capture word).capturedLast = word.last := by
    simp [Router.capture, last]
  have phase : (router.capture word).phase =
      if word.last || (router.capture word).ring.captured == Header.windowWords then
        .deciding
      else
        .capturing := rfl
  rw [next.captured] at phase
  cases ended : word.last with
  | true =>
      have whole : Whole Sample.ends (samples ++ [⟨word, router.config⟩]) := isOpen.whole ended
      have within : (samples ++ [(⟨word, router.config⟩ : Sample)]).length ≤
          Header.windowWords := by
        simpa using Nat.succ_le_of_lt short
      refine .deciding ?_ next (.ended (capturedLast.trans ended) whole within) within
      simpa [ended] using phase
  | false =>
      have stillOpen : Open Sample.ends (samples ++ [⟨word, router.config⟩]) :=
        isOpen.append ended
      simp only [ended, Bool.false_or, beq_iff_eq, List.length_append, List.length_singleton]
        at phase
      -- The window may be full although the frame goes on.
      split at phase
      · rename_i filled
        have length : (samples ++ [(⟨word, router.config⟩ : Sample)]).length =
            Header.windowWords := by
          simpa using filled
        exact .deciding phase next (.full (capturedLast.trans ended) stillOpen length.ge)
          length.le
      · rename_i notFilled
        refine .capturing phase next (capturedLast.trans ended) stillOpen (by simp) ?_
        simp only [List.length_append, List.length_singleton]
        omega

theorem Flight.begin (router : Router S F) (word : Word) :
    (router.cleared.capture word).Flight [⟨word, router.config⟩] none [] :=
  Flight.capture router.captured_cleared rfl Open.nil (by decide) word

theorem Flight.of_idle (flight : router.Flight samples decision moved)
    (phase : router.phase = .idle) : samples = [] ∧ decision = none ∧ moved = [] := by
  cases flight with
  | idle => exact ⟨rfl, rfl, rfl⟩
  | capturing other => cases phase.symm.trans other
  | deciding other => cases phase.symm.trans other
  | forwarding forwarded => cases phase.symm.trans forwarded.phase

theorem Flight.of_capturing (flight : router.Flight samples decision moved)
    (phase : router.phase = .capturing) :
    router.Captured samples ∧ router.capturedLast = false ∧ Open Sample.ends samples ∧
      samples.length < Header.windowWords ∧ decision = none ∧ moved = [] := by
  cases flight with
  | idle other => cases phase.symm.trans other
  | capturing _ captured last isOpen _ short => exact ⟨captured, last, isOpen, short, rfl, rfl⟩
  | deciding other => cases phase.symm.trans other
  | forwarding forwarded => cases phase.symm.trans forwarded.phase

theorem Flight.of_deciding (flight : router.Flight samples decision moved)
    (phase : router.phase = .deciding) :
    router.Captured samples ∧ Complete router.capturedLast samples ∧
      decision = none ∧ moved = [] := by
  cases flight with
  | idle other => cases phase.symm.trans other
  | capturing other => cases phase.symm.trans other
  | deciding _ captured complete => exact ⟨captured, complete, rfl, rfl⟩
  | forwarding forwarded => cases phase.symm.trans forwarded.phase

theorem Flight.of_forwarding (flight : router.Flight samples decision moved) {route : Route}
    (phase : router.phase = .forwarding route) :
    ∃ made, decision = some made ∧ made.route = route ∧
      router.Forwarded samples made moved := by
  cases flight with
  | idle other => cases phase.symm.trans other
  | capturing other => cases phase.symm.trans other
  | deciding other => cases phase.symm.trans other
  | @forwarding _ made _ forwarded =>
      have same := phase.symm.trans forwarded.phase
      exact ⟨made, rfl, (Phase.forwarding.inj same).symm, forwarded⟩

theorem Complete.ne_nil {last : Bool} (complete : Complete last samples) : samples ≠ [] := by
  cases complete with
  | ended _ whole => exact whole.ne_nil
  | full _ _ filled =>
      intro empty
      subst empty
      exact absurd filled (by decide)

/-- The phase names the route of the decision. -/
theorem Flight.route?_eq (flight : router.Flight samples decision moved) :
    router.phase.route? = decision.map Decision.route := by
  cases flight with
  | idle phase => rw [phase]; rfl
  | capturing phase => rw [phase]; rfl
  | deciding phase => rw [phase]; rfl
  | forwarding forwarded => rw [forwarded.phase]; rfl

/-- The accepted words have left or are in the ring. -/
theorem Flight.words (flight : router.Flight samples decision moved) :
    samples.map Sample.word = moved ++ router.ring.toList := by
  cases flight with
  | idle _ ring => simp [ring]
  | capturing _ captured => simp [captured.ring]
  | deciding _ captured => simp [captured.ring]
  | forwarding forwarded => exact forwarded.split

theorem Complete.shape {last : Bool} (complete : Complete last samples) :
    Whole Sample.ends samples ∨ Open Sample.ends samples := by
  cases complete with
  | ended _ whole => exact Or.inl whole
  | full _ isOpen => exact Or.inr isOpen

theorem Flight.shape (flight : router.Flight samples decision moved)
    (busy : router.phase ≠ .idle) :
    (Whole Sample.ends samples ∨ Open Sample.ends samples) ∧ samples ≠ [] := by
  cases flight with
  | idle phase => exact absurd phase busy
  | capturing _ _ _ isOpen nonempty => exact ⟨Or.inr isOpen, nonempty⟩
  | deciding _ _ complete => exact ⟨complete.shape, complete.ne_nil⟩
  | forwarding forwarded => exact ⟨forwarded.complete.shape, forwarded.complete.ne_nil⟩

/-- The words accepted of the frame in flight are whole or still open. -/
theorem Flight.words_shape (flight : router.Flight samples decision moved)
    (nonempty : samples ≠ []) :
    Whole Word.last (samples.map Sample.word) ∨ Open Word.last (samples.map Sample.word) := by
  have busy : router.phase ≠ .idle := fun idle => nonempty (flight.of_idle idle).1
  rcases (flight.shape busy).1 with whole | isOpen
  · exact Or.inl (whole.map fun _ => rfl)
  · exact Or.inr (isOpen.map fun _ => rfl)

/-- The decision is made from the captured words, under the policy of the moment. -/
theorem Captured.decide (captured : router.Captured samples)
    (complete : Complete router.capturedLast samples) :
    router.decide.Forwarded samples router.decision [] where
  phase := rfl
  split := captured.ring.symm
  complete := complete
  waiting := by
    intro _
    change router.ring.toList ≠ []
    rw [captured.ring]
    simpa using complete.ne_nil
  classification := captured.classification
  frameWords := captured.frameWords
  decided := by simp only [decision, captured.classification]

namespace Forwarded

variable {made : Decision} {word : Word}

/-- The words of a complete header that has ended are whole, otherwise they are open. -/
theorem words (forwarded : router.Forwarded samples made moved) :
    Whole Word.last (moved ++ router.ring.toList) ∧ router.capturedLast = true ∨
      Open Word.last (moved ++ router.ring.toList) ∧ router.capturedLast = false := by
  rw [← forwarded.split]
  cases forwarded.complete with
  | ended last whole => exact Or.inl ⟨whole.map fun _ => rfl, last⟩
  | full last isOpen => exact Or.inr ⟨isOpen.map fun _ => rfl, last⟩

/-- While a word waits in the ring, none that has left ended the frame. -/
theorem isOpen_of_front (forwarded : router.Forwarded samples made moved)
    (front : router.ring.front? = some word) : Open Word.last moved := by
  rw [CaptureRing.front?_eq] at front
  obtain ⟨rest, held⟩ := List.head?_eq_some_iff.mp front
  have words := forwarded.words
  rw [held] at words
  rcases words with ⟨whole, _⟩ | ⟨isOpen, _⟩
  · exact whole.open_before
  · exact fun earlier membership => isOpen earlier (List.mem_append_left _ membership)

theorem replay [Sink S] [Sink F] (forwarded : router.Forwarded samples made moved)
    (front : router.ring.front? = some word) (inside : word.last = false) :
    (router.replayed made.route word).Forwarded samples made (moved ++ [word]) := by
  rw [CaptureRing.front?_eq] at front
  obtain ⟨rest, held⟩ := List.head?_eq_some_iff.mp front
  have popped : (router.replayed made.route word).ring.toList = rest := by
    simp [replayed, CaptureRing.toList_pop, held]
  have words := forwarded.words
  have split := forwarded.split
  rw [held] at words split
  refine ⟨forwarded.phase, by simpa [popped] using split, forwarded.complete, ?_,
    forwarded.classification, forwarded.frameWords, forwarded.decided⟩
  intro last
  rw [popped]
  rcases words with ⟨whole, _⟩ | ⟨_, unended⟩
  · intro empty
    have ended := whole.ends_iff.mpr empty
    exact absurd (inside.symm.trans ended) (by decide)
  · exact absurd (last.symm.trans unended) (by decide)

/-- A replayed terminal word is the last one of a whole frame. -/
theorem replay_final (forwarded : router.Forwarded samples made moved)
    (front : router.ring.front? = some word) (ended : word.last = true) :
    Whole Sample.ends samples ∧ samples.map Sample.word = moved ++ [word] ∧
      router.ring.pop.toList = [] := by
  rw [CaptureRing.front?_eq] at front
  obtain ⟨rest, held⟩ := List.head?_eq_some_iff.mp front
  have words := forwarded.words
  have split := forwarded.split
  rw [held] at words split
  rcases words with ⟨whole, last⟩ | ⟨isOpen, _⟩
  · have nothing : rest = [] := whole.ends_iff.mp ended
    subst nothing
    refine ⟨?_, split, by simp [CaptureRing.toList_pop, held]⟩
    cases forwarded.complete with
    | ended _ wholeSamples => exact wholeSamples
    | full unended => exact absurd (last.symm.trans unended) (by decide)
  · have unended := isOpen word (by simp)
    exact absurd (ended.symm.trans unended) (by decide)

/-- Behind an empty ring the frame is open, its header is full and all of it has left. -/
theorem of_empty (forwarded : router.Forwarded samples made moved)
    (empty : router.ring.front? = none) :
    router.ring.toList = [] ∧ samples.map Sample.word = moved ∧
      Open Sample.ends samples ∧ Header.windowWords ≤ samples.length := by
  have held : router.ring.toList = [] := by
    rw [CaptureRing.front?_eq] at empty
    exact List.head?_eq_none_iff.mp empty
  have split := forwarded.split
  rw [held, List.append_nil] at split
  cases forwarded.complete with
  | ended last => exact absurd held (forwarded.waiting last)
  | full _ isOpen filled => exact ⟨held, split, isOpen, filled⟩

theorem pass [Sink S] [Sink F] (forwarded : router.Forwarded samples made moved)
    (empty : router.ring.front? = none) (inside : word.last = false) :
    (router.passed made.route word).Forwarded (samples ++ [⟨word, router.config⟩]) made
      (moved ++ [word]) := by
  obtain ⟨held, all, isOpen, filled⟩ := forwarded.of_empty empty
  have unended : router.capturedLast = false := by
    cases forwarded.complete with
    | ended last => exact absurd held (forwarded.waiting last)
    | full unended => exact unended
  have window : Header.windowWords ≤
      (samples ++ [(⟨word, router.config⟩ : Sample)]).length :=
    Nat.le_trans filled (by simp)
  refine ⟨?_, ?_, .full unended (isOpen.append inside) window, ?_, ?_, ?_, ?_⟩
  · simp [passed, inside, forwarded.phase]
  · simp [passed, held, all]
  · intro last
    exact absurd (last.symm.trans unended) (by decide)
  · rw [Classification.ofSamples_append_of_window _ filled]
    exact forwarded.classification
  · simp [passed, forwarded.frameWords]
  · rw [Classification.ofSamples_append_of_window _ filled]
    exact forwarded.decided

end Forwarded

/-- None of the words that have left ended the frame in flight. -/
theorem Flight.isOpen_moved (flight : router.Flight samples decision moved) :
    Open Word.last moved := by
  cases flight with
  | idle => exact Open.nil
  | capturing => exact Open.nil
  | deciding => exact Open.nil
  | forwarding forwarded =>
      rcases forwarded.words with ⟨isWhole, last⟩ | ⟨isOpen, _⟩
      · exact isWhole.isOpen_of_append (forwarded.waiting last)
      · exact fun word membership => isOpen word (List.mem_append_left _ membership)

end Router

end FrameRouter
