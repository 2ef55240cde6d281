import FrameRouter.Proofs.Engine.Conservation
import FrameRouter.Proofs.Engine.Deciding

/-!
# Phases

What the ring, the classification, the flag of a captured terminal word and the
count of words hold in each phase of a router.  It follows that the ring has
room for every word that is captured, and that it is never reset while words
wait in it.
-/

namespace FrameRouter

open Cutting

namespace CaptureRing

/-- The newest waiting word ends its frame. -/
def endsFrame (ring : CaptureRing) : Bool := ring.toList.getLast?.any Word.last

/-- Store a word; there has to be room for it. -/
def store? (ring : CaptureRing) (word : Word) : Option CaptureRing :=
  match ring.push word with
  | (true, stored) => some stored
  | (false, _) => none

/-- Make room for a new frame; no word may wait any more. -/
def renew? (ring : CaptureRing) : Option CaptureRing :=
  if ring.size = 0 then some ring.reset else none

theorem store?_eq {ring : CaptureRing} (room : ring.size < slotCount) (word : Word) :
    ring.store? word = some (ring.push word).2 := by
  simp [store?, push, room]

theorem renew?_eq {ring : CaptureRing} (empty : ring.toList = []) :
    ring.renew? = some ring.reset := by
  have nothing : ring.size = 0 := by rw [← length_toList, empty, List.length_nil]
  simp [renew?, nothing]

/-- A word is lost on a full ring, and waiting words on a reset: both are refused. -/
example (word : Word) :
    ({ empty with size := slotCount }.store? word = none) ∧
      (empty.push word).2.renew? = none := ⟨rfl, rfl⟩

end CaptureRing

namespace Router

variable {S F : Type}

/-- The header words of the frame in flight wait in the ring, and all are counted and classified. -/
structure Level (router : Router S F) (words : List Word) : Prop where
  waiting : router.ring.toList = words
  size : router.ring.size = router.frameWords
  captured : router.ring.captured = router.frameWords
  wordsSeen : router.classification.wordsSeen = router.frameWords
  positive : 1 ≤ router.frameWords

/-- What a router holds in each phase, given the accepted words of the frame in flight. -/
structure Phased (router : Router S F) (words : List Word) : Prop where
  idle : router.phase = .idle → router.ring.size = 0
  capturing : router.phase = .capturing → router.Level words ∧
    router.frameWords < Header.windowWords ∧ Open Word.last router.ring.toList
  deciding : router.phase = .deciding → router.Level words ∧
    router.frameWords ≤ Header.windowWords ∧
    (router.capturedLast = true ↔ router.ring.endsFrame = true) ∧
    (router.capturedLast = true ∨ router.frameWords = Header.windowWords)
  forwarding : ∀ route, router.phase = .forwarding route →
    (router.capturedLast = true → router.ring.size ≠ 0 ∧ router.ring.endsFrame = true) ∧
      (router.ring.size = 0 → words ≠ [] ∧ Open Word.last words)

variable {router : Router S F} {samples : List Sample} {decision : Option Decision}
  {moved : List Word}

/-- The captured words of a nonempty prefix within the window. -/
theorem Captured.level (captured : router.Captured samples) (nonempty : samples ≠ [])
    (within : samples.length ≤ Header.windowWords) :
    router.Level (samples.map Sample.word) where
  waiting := captured.ring
  size := by rw [captured.size, captured.frameWords]
  captured := by rw [captured.captured, captured.frameWords]
  wordsSeen := by
    rw [captured.classification, Classification.ofSamples_eq_read, captured.frameWords]
    exact Nat.min_eq_left within
  positive := by
    rw [captured.frameWords]
    exact List.length_pos_of_ne_nil nonempty

/-- The flag of a captured terminal word tells whether the captured words end the frame. -/
theorem Complete.endsFrame_iff (complete : Complete router.capturedLast samples)
    (captured : router.Captured samples) :
    router.capturedLast = true ↔ router.ring.endsFrame = true := by
  unfold CaptureRing.endsFrame
  rw [captured.ring]
  cases complete with
  | ended last whole =>
      have newest : Whole Word.last (samples.map Sample.word) := whole.map fun _ => rfl
      rw [last, newest.getLast?_any]
  | full last isOpen =>
      have newest : Open Word.last (samples.map Sample.word) := isOpen.map fun _ => rfl
      rw [last, newest.getLast?_any]

/-- A captured terminal word of a decided frame is the newest that waits. -/
theorem Forwarded.endsFrame {made : Decision} (forwarded : router.Forwarded samples made moved)
    (last : router.capturedLast = true) : router.ring.endsFrame = true := by
  rcases forwarded.words with ⟨whole, _⟩ | ⟨_, unended⟩
  · have newest := whole.getLast?_any
    rwa [List.getLast?_append_of_ne_nil _ (forwarded.waiting last)] at newest
  · exact absurd (last.symm.trans unended) (by decide)

theorem Flight.phased (flight : router.Flight samples decision moved) :
    router.Phased (samples.map Sample.word) := by
  cases flight with
  | idle phase empty =>
      have nothing : router.ring.size = 0 := by
        rw [← CaptureRing.length_toList, empty, List.length_nil]
      constructor <;> simp [phase, nothing]
  | capturing phase captured last isOpen nonempty short =>
      constructor
      case capturing =>
        intro _
        refine ⟨captured.level nonempty short.le, ?_, ?_⟩
        · rw [captured.frameWords]
          exact short
        · rw [captured.ring]
          exact isOpen.map fun _ => rfl
      all_goals simp [phase]
  | deciding phase captured complete within =>
      constructor
      case deciding =>
        intro _
        refine ⟨captured.level complete.ne_nil within, ?_, complete.endsFrame_iff captured, ?_⟩
        · rw [captured.frameWords]
          exact within
        · rw [captured.frameWords]
          cases complete with
          | ended last => exact Or.inl last
          | full _ _ filled => exact Or.inr (Nat.le_antisymm within filled)
      all_goals simp [phase]
  | forwarding forwarded =>
      constructor
      case forwarding =>
        intro route _
        rw [← CaptureRing.length_toList]
        constructor
        · intro last
          exact ⟨fun empty => forwarded.waiting last (List.length_eq_zero_iff.mp empty),
            forwarded.endsFrame last⟩
        · intro empty
          have held : router.ring.front? = none := by
            rw [CaptureRing.front?_eq, List.length_eq_zero_iff.mp empty, List.head?_nil]
          obtain ⟨_, _, isOpen, _⟩ := forwarded.of_empty held
          exact ⟨by simpa using forwarded.complete.ne_nil, isOpen.map fun _ => rfl⟩
      all_goals simp [forwarded.phase]

/-! ## The checked tick -/

/-- Capture one header word; the ring has to have room for it. -/
def capture? (router : Router S F) (word : Word) : Option (Router S F) :=
  (router.ring.store? word).map fun _ => router.capture word

/-- Begin a frame with the offered word; no word of the last one may wait in the ring. -/
def start? (router : Router S F) : Option Word → Option (Router S F × Bool)
  | none => some (router, false)
  | some word => do
      let ring ← router.ring.renew?
      let begun ← capture?
        { router with
          ring := ring
          classification := .start
          capturedLast := false
          frameWords := 0 }
        word
      return (begun, true)

theorem start?_eq {router : Router S F} (empty : router.ring.toList = []) (input : Option Word) :
    router.start? input = some (router.start input) := by
  cases input with
  | none => rfl
  | some word =>
      have room : router.ring.reset.size < CaptureRing.slotCount := Nat.succ_pos _
      simp only [start?, CaptureRing.renew?_eq empty, Option.bind_eq_bind, Option.bind_some,
        capture?, CaptureRing.store?_eq room, Option.map_some]
      rfl

variable [Sink S] [Sink F]

/-- Replay the oldest captured word; behind the terminal one the ring is renewed. -/
def replay? (router : Router S F) (route : Route) (word : Word) (input : Option Word) :
    Option (Router S F × Bool) :=
  if router.outlets.accepts route then
    let moved := router.replayed route word
    if word.last then start? moved.rested input else some (moved, false)
  else
    some (router.count .stall, false)

/-- Act on the offered word; whatever the ring is asked for has to be possible. -/
def act? (router : Router S F) (input : Option Word) : Option (Router S F × Bool) :=
  match router.phase with
  | .idle => router.start? input
  | .capturing =>
      match input with
      | some word => (router.capture? word).map fun captured => (captured, true)
      | none => some (router, false)
  | .deciding => some (router.decide, false)
  | .forwarding route =>
      match router.ring.front? with
      | some word => router.replay? route word input
      | none => some (router.pass route input)

/-- Let one tick pass, of which the ring is asked nothing impossible. -/
def tick? (router : Router S F) (input : Option Word) : Option (Router S F × Bool) :=
  router.advanced.act? input

/-- Acting on a frame in flight asks nothing impossible of the ring. -/
theorem Flight.act?_eq (flight : router.Flight samples decision moved) (input : Option Word) :
    router.act? input = some (router.act input) := by
  unfold act? act
  cases flight with
  | idle phase empty => simp only [phase, start?_eq empty]
  | capturing phase captured _ _ _ short =>
      rw [phase]
      cases input with
      | none => rfl
      | some word =>
          simp only [capture?, CaptureRing.store?_eq (captured.room short), Option.map_some]
  | deciding phase => rw [phase]
  | forwarding forwarded =>
      simp only [forwarded.phase, forward]
      cases front : router.ring.front? with
      | none => rfl
      | some word =>
          simp only [replay?, Router.replay]
          cases accepted : router.outlets.accepts _ with
          | false => rfl
          | true =>
              cases ended : word.last with
              | false => rfl
              | true =>
                  -- The replayed terminal word was the last one to wait.
                  obtain ⟨_, _, empty⟩ := forwarded.replay_final front ended
                  exact start?_eq empty input

theorem Flight.advance (flight : router.Flight samples decision moved) :
    router.advanced.Flight samples decision moved :=
  flight.transfer rfl rfl rfl rfl rfl

/-- Before a decision the frame takes every word that is offered. -/
theorem accepts_of_capture (router : Router S F) (word : Word)
    (phase : router.phase = .idle ∨ router.phase = .capturing) :
    (router.tick (some word)).2 = true := by
  unfold tick act
  rcases phase with idle | capturing
  · simp only [idle, Router.start]
  · simp only [capturing]

end Router

namespace Run

variable {S F : Type} [Sink S] [Sink F]

/-- A run in a state of order: what the ring is asked for next is possible. -/
structure Disciplined (run : Run S F) : Prop where
  phased : run.router.Phased run.inFlight
  accepting : run.router.phase = .idle ∨ run.router.phase = .capturing →
    ∀ word, (run.router.tick (some word)).2 = true
  checked : ∀ input, run.router.tick? input = some (run.router.tick input)

/--
Every run is in order at any time, whatever is offered, however the sinks
behave and whatever is written to the registers: in each phase the router holds
what belongs there, the words in front of the decision are all accepted, none
is pushed into a full ring and the ring is never reset while words wait.
-/
theorem disciplined (config : Config) (outlets : Outlets S F) (actions : List (Action S F)) :
    (play (.ofOutlets config outlets) actions).Disciplined := by
  obtain ⟨ledger, balanced⟩ := Run.accounted config outlets actions
  constructor
  · rw [balanced.cut.2]
    exact balanced.flight.phased
  · intro phase word
    exact Router.accepts_of_capture _ word phase
  · intro input
    exact balanced.flight.advance.act?_eq input

end Run

end FrameRouter
