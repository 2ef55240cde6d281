import FrameRouter.Proofs.Engine.Flight
import FrameRouter.Proofs.Engine.Following

/-!
# The ledger of a run

The ledger lists the frames that have left, each with its words and its
decision, and what is known of the frame in flight.  It balances when it
accounts for every accepted word, every decision and every word handed to a
sink.  Every turn keeps some ledger balanced, whatever the sinks do, and so
does a change of the configuration.
-/

namespace FrameRouter

open Cutting

/-- A frame that has left, and the decision about it. -/
structure Passage where
  samples : List Sample
  decision : Decision

namespace Passage

def words (passage : Passage) : List Word := passage.samples.map Sample.word

/-- What an outlet has received of the frame. -/
def handed (passage : Passage) (outlet : Outlet) : List Word :=
  passage.decision.route.share outlet passage.words

/-- The words of the frame with the route by which they left. -/
def exits (passage : Passage) : List (Route × Word) :=
  passage.words.map (Prod.mk passage.decision.route)

/-- The frame is whole and was decided from its own words. -/
structure Sound (passage : Passage) : Prop where
  whole : Whole Sample.ends passage.samples
  decided : passage.decision.route =
    Route.decide (.ofSamples passage.samples) passage.decision.policy

end Passage

/-- The frames that have left, oldest first, and the frame in flight. -/
structure Ledger where
  passages : List Passage
  /-- Words accepted of the frame in flight. -/
  current : List Sample
  /-- The decision about the frame in flight, once it is made. -/
  decision : Option Decision
  /-- Words of the frame in flight that have left. -/
  moved : List Word

namespace Ledger

def blank : Ledger := ⟨[], [], none, []⟩

/-- What an outlet has received of the frame in flight. -/
def inFlight (ledger : Ledger) (outlet : Outlet) : List Word :=
  match ledger.decision with
  | some decision => decision.route.share outlet ledger.moved
  | none => []

def handed (ledger : Ledger) (outlet : Outlet) : List Word :=
  ledger.passages.flatMap (fun passage => passage.handed outlet) ++ ledger.inFlight outlet

/-- The words that have left, oldest first, each with the route by which it left. -/
def exits (ledger : Ledger) : List (Route × Word) :=
  ledger.passages.flatMap Passage.exits ++
    match ledger.decision with
    | some decision => ledger.moved.map (Prod.mk decision.route)
    | none => []

/-- A further word of the frame in flight has left. -/
def move (ledger : Ledger) (word : Word) : Ledger :=
  { ledger with moved := ledger.moved ++ [word] }

/-- A further word of the frame in flight has been accepted. -/
def accept (ledger : Ledger) (sample : Sample) : Ledger :=
  { ledger with current := ledger.current ++ [sample] }

/-- The frame in flight is given its route. -/
def decide (ledger : Ledger) (decision : Decision) : Ledger :=
  { ledger with decision := some decision }

/-- The frame in flight has left. -/
def close (ledger : Ledger) (decision : Decision) : Ledger :=
  ⟨ledger.passages ++ [⟨ledger.current, decision⟩], [], none, []⟩

/-- A further word of the frame in flight has left, and with the terminal one the frame. -/
def leave (ledger : Ledger) (decision : Decision) (word : Word) : Ledger :=
  if word.last then (ledger.move word).close decision else ledger.move word

/-- The word can leave next: a terminal one is the last that is missing of its frame. -/
structure Leaves (ledger : Ledger) (made : Decision) (word : Word) : Prop where
  decided : ledger.decision = some made
  isOpen : Open Word.last ledger.moved
  all : word.last = true → ledger.current.map Sample.word = ledger.moved ++ [word]

end Ledger

/-- The ledger accounts for the accepted words and for the decisions. -/
structure Ledger.Records (ledger : Ledger) (samples : List Sample)
    (decisions : List Decision) : Prop where
  samples : samples = ledger.passages.flatMap Passage.samples ++ ledger.current
  decisions : decisions = ledger.passages.map Passage.decision ++ ledger.decision.toList
  sound : ∀ passage ∈ ledger.passages, passage.Sound

namespace Ledger

variable {ledger : Ledger} {samples : List Sample} {decisions : List Decision} {made : Decision}

theorem handed_move (ledger : Ledger) (word : Word) (decided : ledger.decision = some made) :
    (ledger.move word).handed =
      fun outlet => ledger.handed outlet ++ made.route.share outlet [word] := by
  funext outlet
  simp [handed, inFlight, move, decided, Route.share_append]

@[simp]
theorem handed_accept (ledger : Ledger) (sample : Sample) :
    (ledger.accept sample).handed = ledger.handed := rfl

/-- A decision hands over nothing. -/
theorem handed_decide (ledger : Ledger) (made : Decision) (undecided : ledger.decision = none)
    (unmoved : ledger.moved = []) : (ledger.decide made).handed = ledger.handed := by
  funext outlet
  simp [handed, inFlight, decide, undecided, unmoved, Route.share]

/-- Closing a frame of which every word has left hands over nothing. -/
theorem handed_close (ledger : Ledger) (decided : ledger.decision = some made)
    (all : ledger.current.map Sample.word = ledger.moved) :
    (ledger.close made).handed = ledger.handed := by
  funext outlet
  simp [handed, inFlight, close, decided, Passage.handed, Passage.words, all]

theorem handed_leave {word : Word} (leaves : ledger.Leaves made word) :
    (ledger.leave made word).handed =
      fun outlet => ledger.handed outlet ++ made.route.share outlet [word] := by
  rw [← ledger.handed_move word leaves.decided]
  unfold leave
  split
  · rename_i ended
    exact (ledger.move word).handed_close leaves.decided (leaves.all ended)
  · rfl

theorem exits_leave {word : Word} (leaves : ledger.Leaves made word) :
    (ledger.leave made word).exits = ledger.exits ++ [(made.route, word)] := by
  unfold leave
  split
  · rename_i ended
    simp [exits, move, close, leaves.decided, Passage.exits, Passage.words, leaves.all ended]
  · simp [exits, move, leaves.decided]

/-- What an outlet was handed splits into its whole frames and its part of the one in flight. -/
theorem split_handed (sound : ∀ passage ∈ ledger.passages, passage.Sound)
    (isOpen : Open Word.last ledger.moved) (outlet : Outlet) :
    complete Word.last (ledger.handed outlet) =
        (ledger.passages.filter fun passage => passage.decision.route.reaches outlet).map
          Passage.words ∧
      remainder Word.last (ledger.handed outlet) = ledger.inFlight outlet := by
  have shares := Route.flatMap_share (fun passage : Passage => passage.decision.route)
    Passage.words outlet ledger.passages
  change ledger.passages.flatMap (fun passage => passage.handed outlet) = _ at shares
  rw [handed, shares, List.flatMap_def]
  refine complete_remainder ?_ ?_
  · intro frame membership
    obtain ⟨passage, listed, rfl⟩ := List.mem_map.mp membership
    exact (sound passage (List.mem_filter.mp listed).1).whole.map fun _ => rfl
  · unfold inFlight Route.share
    split
    · split
      · exact isOpen
      · exact Open.nil
    · exact Open.nil

namespace Records

theorem blank : Ledger.blank.Records [] [] where
  samples := rfl
  decisions := rfl
  sound := by
    intro passage membership
    cases membership

theorem accept (records : ledger.Records samples decisions) (sample : Sample) :
    (ledger.accept sample).Records (samples ++ [sample]) decisions where
  samples := by
    rw [records.samples]
    simp [Ledger.accept]
  decisions := records.decisions
  sound := records.sound

theorem move (records : ledger.Records samples decisions) (word : Word) :
    (ledger.move word).Records samples decisions :=
  ⟨records.samples, records.decisions, records.sound⟩

theorem decide (records : ledger.Records samples decisions) (undecided : ledger.decision = none)
    (made : Decision) :
    (ledger.decide made).Records samples (decisions ++ [made]) where
  samples := records.samples
  decisions := by
    rw [records.decisions, undecided]
    simp [Ledger.decide]
  sound := records.sound

/-- The books on a whole frame are closed under the decision made from its words. -/
theorem close (records : ledger.Records samples decisions) (decided : ledger.decision = some made)
    (whole : Whole Sample.ends ledger.current)
    (exact : made.route = Route.decide (.ofSamples ledger.current) made.policy) :
    (ledger.close made).Records samples decisions where
  samples := by
    rw [records.samples]
    simp [Ledger.close]
  decisions := by
    rw [records.decisions, decided]
    simp [Ledger.close]
  sound := by
    intro passage membership
    rcases List.mem_append.mp membership with earlier | this
    · exact records.sound passage earlier
    · rw [List.mem_singleton.mp this]
      exact ⟨whole, exact⟩

end Records

variable {S F : Type} [Sink S] [Sink F]

/--
What a turn enters into the ledger, together with the word that leaves.  Only
a blocked turn enters nothing.
-/
inductive Entry (router : Router S F) (input : Option Word) (ledger : Ledger) :
    Option (Route × Word) → Ledger → Prop where
  | blocked (nothing : router.Blocked input) : Entry router input ledger none ledger
  /-- A header word is captured. -/
  | capture (sample : Sample) (undeciding : router.phase ≠ .deciding)
      (undecided : ledger.decision = none) (short : ledger.current.length < Header.windowWords) :
      Entry router input ledger none (ledger.accept sample)
  | decide (deciding : router.phase = .deciding) (undecided : ledger.decision = none)
      (unmoved : ledger.moved = []) :
      Entry router input ledger none (ledger.decide router.decision)
  /-- A captured word leaves. -/
  | leave (made : Decision) (word : Word) (leaves : ledger.Leaves made word) :
      Entry router input ledger (some (made.route, word)) (ledger.leave made word)
  /-- The captured terminal word leaves, and the next frame begins. -/
  | exchange (made : Decision) (word : Word) (sample : Sample) (leaves : ledger.Leaves made word)
      (ended : word.last = true) :
      Entry router input ledger (some (made.route, word)) ((ledger.leave made word).accept sample)
  /-- A word behind the header passes through. -/
  | pass (made : Decision) (sample : Sample) (filled : Header.windowWords ≤ ledger.current.length)
      (leaves : (ledger.accept sample).Leaves made sample.word) :
      Entry router input ledger (some (made.route, sample.word))
        ((ledger.accept sample).leave made sample.word)

/-- The ledger lists what has left. -/
theorem Entry.exits_eq {router : Router S F} {input : Option Word} {next : Ledger}
    {exit : Option (Route × Word)} (entry : Entry router input ledger exit next) :
    next.exits = ledger.exits ++ exit.toList := by
  cases entry with
  | blocked => simp
  | capture sample short => exact (List.append_nil _).symm
  | decide deciding undecided unmoved => simp [exits, Ledger.decide, undecided, unmoved]
  | leave made word leaves => exact exits_leave leaves
  | exchange made word sample leaves => exact exits_leave leaves
  | pass made sample filled leaves => exact exits_leave leaves

end Ledger

variable {S F : Type}

/-- The ledger accounts for all that a router has done, and for what its sinks were handed. -/
structure Balanced (relation : Outlets S F → (Outlet → List Word) → Prop)
    (router : Router S F) (samples : List Sample) (decisions : List Decision)
    (ledger : Ledger) : Prop where
  records : ledger.Records samples decisions
  flight : router.Flight ledger.current ledger.decision ledger.moved
  outlets : relation router.outlets ledger.handed

namespace Balanced

variable {relation : Outlets S F → (Outlet → List Word) → Prop} {router after : Router S F}
  {samples : List Sample} {decisions : List Decision} {ledger : Ledger}

/-- A router that has seen no word has a blank ledger. -/
theorem initial (config : Config) {outlets : Outlets S F}
    (initially : relation outlets fun _ => []) :
    Balanced relation (.ofOutlets config outlets) [] [] .blank where
  records := .blank
  flight := .idle rfl rfl
  outlets := initially

/-- The first word of the next frame is captured while none is in flight. -/
theorem begin (balanced : Balanced relation router samples decisions ledger)
    (phase : router.phase = .idle) (word : Word) :
    Balanced relation (router.cleared.capture word) (samples ++ [⟨word, router.config⟩])
      decisions (ledger.accept ⟨word, router.config⟩) where
  records := balanced.records.accept _
  flight := by
    obtain ⟨current, decision, moved⟩ := balanced.flight.of_idle phase
    simpa [Ledger.accept, current, decision, moved] using Router.Flight.begin router word
  outlets := balanced.outlets

/-- A further header word is captured. -/
theorem capture (balanced : Balanced relation router samples decisions ledger)
    (phase : router.phase = .capturing) (word : Word) :
    Balanced relation (router.capture word) (samples ++ [⟨word, router.config⟩]) decisions
      (ledger.accept ⟨word, router.config⟩) where
  records := balanced.records.accept _
  flight := by
    obtain ⟨captured, last, isOpen, short, decision, moved⟩ :=
      balanced.flight.of_capturing phase
    simpa [Ledger.accept, decision, moved] using
      Router.Flight.capture captured last isOpen short word
  outlets := balanced.outlets

/-- The frame in flight is given its route. -/
theorem decide (balanced : Balanced relation router samples decisions ledger)
    (phase : router.phase = .deciding) :
    Balanced relation router.decide samples (decisions ++ [router.decision])
      (ledger.decide router.decision) := by
  obtain ⟨captured, complete, undecided, unmoved⟩ := balanced.flight.of_deciding phase
  refine ⟨balanced.records.decide undecided _, ?_, ?_⟩
  · simpa [Ledger.decide, unmoved] using Router.Flight.forwarding (captured.decide complete)
  · rw [ledger.handed_decide _ undecided unmoved]
    exact balanced.outlets

/-- The frames cut from the accepted words are the passages and the frame in flight. -/
theorem pieces (balanced : Balanced relation router samples decisions ledger) :
    pieces Sample.ends samples = ledger.passages.map Passage.samples ++
      if router.phase = .idle then [] else [ledger.current] := by
  have whole : ∀ frame ∈ ledger.passages.map Passage.samples, Whole Sample.ends frame := by
    intro frame membership
    obtain ⟨passage, listed, rfl⟩ := List.mem_map.mp membership
    exact (balanced.records.sound passage listed).whole
  rw [balanced.records.samples, List.flatMap_def]
  split
  · rename_i idle
    obtain ⟨current, _, _⟩ := balanced.flight.of_idle idle
    rw [current, List.append_nil, pieces_flatten whole, List.append_nil]
  · rename_i busy
    obtain ⟨shape, nonempty⟩ := balanced.flight.shape busy
    exact pieces_flatten_append_last whole shape nonempty

/-- The outlets may change from outside, as long as they agree with what they were handed. -/
theorem exchange {other : Outlets S F → (Outlet → List Word) → Prop}
    (balanced : Balanced relation router samples decisions ledger) {outlets : Outlets S F}
    (related : other outlets ledger.handed) :
    Balanced other { router with outlets := outlets } samples decisions ledger :=
  ⟨balanced.records, balanced.flight.transfer rfl rfl rfl rfl rfl, related⟩

theorem reconfigure (balanced : Balanced relation router samples decisions ledger)
    (config : Config) : Balanced relation (router.reconfigure config) samples decisions ledger :=
  ⟨balanced.records, balanced.flight.transfer rfl rfl rfl rfl rfl, balanced.outlets⟩

variable [Sink S] [Sink F]

/-- A captured word leaves that does not end the frame. -/
theorem replay (follows : Follows relation)
    (balanced : Balanced relation router samples decisions ledger) {route : Route} {word : Word}
    (phase : router.phase = .forwarding route) (front : router.ring.front? = some word)
    (accepted : router.outlets.accepts route = true) (inside : word.last = false) :
    ∃ made, made.route = route ∧ ledger.Leaves made word ∧
      Balanced relation (router.replayed route word) samples decisions
        (ledger.leave made word) := by
  obtain ⟨made, decided, rfl, forwarded⟩ := balanced.flight.of_forwarding phase
  have leaves : ledger.Leaves made word := by
    refine ⟨decided, forwarded.isOpen_of_front front, ?_⟩
    intro ended
    exact absurd (ended.symm.trans inside) (by decide)
  have moved : ledger.leave made word = ledger.move word := by simp [Ledger.leave, inside]
  refine ⟨made, rfl, leaves, ?_, ?_, ?_⟩
  · rw [moved]
    exact balanced.records.move word
  · rw [moved]
    simpa [Ledger.move, decided] using
      Router.Flight.forwarding (forwarded.replay front inside)
  · rw [Ledger.handed_leave leaves]
    exact follows.deliver word made.route balanced.outlets accepted

/-- Replaying the terminal word leaves no frame in flight. -/
theorem finish (follows : Follows relation)
    (balanced : Balanced relation router samples decisions ledger) {route : Route} {word : Word}
    (phase : router.phase = .forwarding route) (front : router.ring.front? = some word)
    (accepted : router.outlets.accepts route = true) (ended : word.last = true) :
    ∃ made, made.route = route ∧ ledger.Leaves made word ∧
      Balanced relation (router.replayed route word).rested samples decisions
        (ledger.leave made word) := by
  obtain ⟨made, decided, rfl, forwarded⟩ := balanced.flight.of_forwarding phase
  obtain ⟨whole, all, empty⟩ := forwarded.replay_final front ended
  have leaves : ledger.Leaves made word :=
    ⟨decided, forwarded.isOpen_of_front front, fun _ => all⟩
  have closed : ledger.leave made word = (ledger.move word).close made := by
    simp [Ledger.leave, ended]
  refine ⟨made, rfl, leaves, ?_, ?_, ?_⟩
  · rw [closed]
    exact (balanced.records.move word).close decided whole forwarded.decided
  · rw [closed]
    exact .idle rfl empty
  · rw [Ledger.handed_leave leaves]
    exact follows.deliver word made.route balanced.outlets accepted

/-- A live word leaves, and with the terminal one the frame. -/
theorem pass (follows : Follows relation)
    (balanced : Balanced relation router samples decisions ledger) {route : Route} (word : Word)
    (phase : router.phase = .forwarding route) (empty : router.ring.front? = none)
    (accepted : router.outlets.accepts route = true) :
    ∃ made, made.route = route ∧ Header.windowWords ≤ ledger.current.length ∧
      (ledger.accept ⟨word, router.config⟩).Leaves made word ∧
      Balanced relation (router.passed route word) (samples ++ [⟨word, router.config⟩]) decisions
        ((ledger.accept ⟨word, router.config⟩).leave made word) := by
  obtain ⟨made, decided, rfl, forwarded⟩ := balanced.flight.of_forwarding phase
  obtain ⟨held, all, isOpen, filled⟩ := forwarded.of_empty empty
  have leaves : (ledger.accept ⟨word, router.config⟩).Leaves made word := by
    refine ⟨decided, ?_, fun _ => by simp [Ledger.accept, all]⟩
    change Open Word.last ledger.moved
    rw [← all]
    exact isOpen.map fun _ => rfl
  have records := (balanced.records.accept ⟨word, router.config⟩).move word
  have outlets := follows.deliver word made.route balanced.outlets accepted
  rw [← ledger.handed_accept ⟨word, router.config⟩, ← Ledger.handed_leave leaves] at outlets
  refine ⟨made, rfl, filled, leaves, ?_, ?_, outlets⟩
  · unfold Ledger.leave
    split
    · rename_i ended
      have whole : Whole Sample.ends (ledger.current ++ [⟨word, router.config⟩]) :=
        isOpen.whole ended
      -- The decision was made before this word, but a word behind the window does not matter to it.
      have exact := forwarded.decided
      rw [← Classification.ofSamples_append_of_window ⟨word, router.config⟩ filled] at exact
      exact records.close decided whole exact
    · exact records
  · unfold Ledger.leave
    cases ended : word.last with
    | false =>
        have next := forwarded.pass empty ended
        simpa [Ledger.accept, Ledger.move, decided] using Router.Flight.forwarding next
    | true => exact .idle (by simp [Router.passed, ended]) held

/-- Every turn keeps the ledger balanced by what it enters there. -/
theorem turn (follows : Follows relation)
    (balanced : Balanced relation router samples decisions ledger) {input : Option Word}
    {accepted : Bool} (turn : router.Turn input after accepted) :
    ∃ next, ledger.Entry router input (router.exit? input) next ∧
      Balanced relation after (samples ++ (router.sampled? input accepted).toList)
        (decisions ++ (router.decided? after.phase).toList) next := by
  cases turn with
  | rest undecided nothing =>
      have blocked := Router.Blocked.rest undecided nothing
      rw [blocked.exit?_eq]
      refine ⟨ledger, .blocked blocked, ?_⟩
      cases phase : router.phase <;> simp_all [Router.sampled?, Router.decided?]
  | begin word idle =>
      obtain ⟨current, undecided, _⟩ := balanced.flight.of_idle idle
      rw [Router.exit?_of_phase _ (by simp [idle])]
      refine ⟨_, .capture ⟨word, router.config⟩ (by simp [idle]) undecided
        (by rw [current]; decide), ?_⟩
      simpa [Router.sampled?, Router.decided?, idle] using balanced.begin idle word
  | capture word capturing =>
      obtain ⟨_, _, _, short, undecided, _⟩ := balanced.flight.of_capturing capturing
      rw [Router.exit?_of_phase _ (by simp [capturing])]
      refine ⟨_, .capture ⟨word, router.config⟩ (by simp [capturing]) undecided short, ?_⟩
      simpa [Router.sampled?, Router.decided?, capturing] using balanced.capture capturing word
  | decide input deciding =>
      obtain ⟨_, _, undecided, unmoved⟩ := balanced.flight.of_deciding deciding
      rw [Router.exit?_of_phase _ (by simp [deciding])]
      refine ⟨_, .decide deciding undecided unmoved, ?_⟩
      have decided : router.decided? router.decide.phase = some router.decision := by
        simp only [Router.decided?, deciding, Router.decide, Router.decision]
      rw [decided]
      simpa [Router.sampled?] using balanced.decide deciding
  | stall input route word forwarding waiting refused =>
      have blocked := Router.Blocked.stall input route forwarding refused
      rw [blocked.exit?_eq]
      refine ⟨ledger, .blocked blocked, ?_⟩
      have stalled : Balanced relation (router.count .stall) samples decisions ledger :=
        ⟨balanced.records, balanced.flight.transfer rfl rfl rfl rfl rfl, balanced.outlets⟩
      simpa [Router.sampled?, Router.decided?, forwarding] using stalled
  | replay input route word forwarding front accepts inside =>
      rw [Router.exit?_of_candidate forwarding (Router.candidate?_of_front input front) accepts]
      obtain ⟨made, rfl, leaves, replayed⟩ :=
        balanced.replay follows forwarding front accepts inside
      refine ⟨_, .leave made word leaves, ?_⟩
      simpa [Router.sampled?, Router.decided?, forwarding] using replayed
  | finish route word forwarding front accepts ended =>
      rw [Router.exit?_of_candidate forwarding (Router.candidate?_of_front none front) accepts]
      obtain ⟨made, rfl, leaves, finished⟩ :=
        balanced.finish follows forwarding front accepts ended
      refine ⟨_, .leave made word leaves, ?_⟩
      simpa [Router.sampled?, Router.decided?, forwarding] using finished
  | exchange route word following forwarding front accepts ended =>
      rw [Router.exit?_of_candidate forwarding (Router.candidate?_of_front _ front) accepts]
      obtain ⟨made, rfl, leaves, finished⟩ :=
        balanced.finish follows forwarding front accepts ended
      -- The tick that ends one frame begins the next, so the ledger loses a frame and accepts.
      have begun := finished.begin rfl following
      refine ⟨_, .exchange made word ⟨following, router.config⟩ leaves ended, ?_⟩
      simpa [Router.sampled?, Router.decided?, forwarding, Router.rested, Router.replayed]
        using begun
  | pass route word forwarding empty accepts =>
      rw [Router.exit?_of_candidate forwarding (Router.candidate?_of_empty _ empty) accepts]
      obtain ⟨made, rfl, filled, leaves, passed⟩ :=
        balanced.pass follows word forwarding empty accepts
      refine ⟨_, .pass made ⟨word, router.config⟩ filled leaves, ?_⟩
      simpa [Router.sampled?, Router.decided?, forwarding] using passed

theorem advance (follows : Follows relation)
    (balanced : Balanced relation router samples decisions ledger) :
    Balanced relation router.advanced samples decisions ledger :=
  balanced.exchange (follows.tick balanced.outlets)

theorem tick (follows : Follows relation)
    (balanced : Balanced relation router samples decisions ledger) (input : Option Word) :
    ∃ next, ledger.Entry router.advanced input (router.advanced.exit? input) next ∧
      Balanced relation (router.tick input).1
        (samples ++ (Beat.mk router input).sample?.toList)
        (decisions ++ (Beat.mk router input).decision?.toList) next :=
  (balanced.advance follows).turn follows (router.tick_turn input)

end Balanced

/-- The word that leaves in a tick, and the route by which it leaves. -/
def Beat.exit? [Sink S] [Sink F] (beat : Beat S F) : Option (Route × Word) :=
  beat.router.advanced.exit? beat.input

/-- The words that have left in a run, oldest first. -/
def Run.exits [Sink S] [Sink F] (run : Run S F) : List (Route × Word) :=
  run.beats.filterMap Beat.exit?

@[simp]
theorem Run.exits_tick [Sink S] [Sink F] (run : Run S F) (input : Option Word) :
    (run.act (.tick input)).exits = run.exits ++ (Beat.mk run.router input).exit?.toList := by
  unfold exits act
  rw [List.filterMap_append]
  cases found : (Beat.mk run.router input).exit? <;> simp [found]

/--
Whatever has happened in a run, some ledger balances.  It has every property
that holds of a blank ledger, that the entries of a tick keep, and in which only
the ticks and the counters of the run have a part.
-/
theorem Run.balanced_along [Sink S] [Sink F] {relation : Outlets S F → (Outlet → List Word) → Prop}
    (follows : Follows relation) {motive : Run S F → Ledger → Prop} (config : Config)
    {outlets : Outlets S F} (initially : relation outlets fun _ => [])
    (actions : List (Action S F)) (keeps : ∀ action ∈ actions, action.Keeps relation)
    (blank : motive (.start (.ofOutlets config outlets)) .blank)
    (tick : ∀ {run : Run S F} {ledger next : Ledger} (input : Option Word),
      Balanced relation run.router run.samples run.decisions ledger →
      ledger.Entry run.router.advanced input (run.router.advanced.exit? input) next →
      motive run ledger → motive (run.act (.tick input)) next)
    (transfer : ∀ (run other : Run S F) {ledger : Ledger}, other.beats = run.beats →
      other.router.counters = run.router.counters → motive run ledger →
      motive other ledger) :
    ∃ ledger, Balanced relation (Run.play (.ofOutlets config outlets) actions).router
        (Run.play (.ofOutlets config outlets) actions).samples
        (Run.play (.ofOutlets config outlets) actions).decisions ledger ∧
      motive (Run.play (.ofOutlets config outlets) actions) ledger := by
  refine Run.play_induction
    (motive := fun run => ∃ ledger,
      Balanced relation run.router run.samples run.decisions ledger ∧ motive run ledger)
    _ actions ⟨.blank, .initial config initially, blank⟩ ?_
  intro run action membership ⟨ledger, balanced, held⟩
  have kept := keeps action membership
  cases action with
  | tick input =>
      obtain ⟨next, entry, ticked⟩ := balanced.tick follows input
      have further := tick input balanced entry held
      rw [← Run.samples_tick, ← Run.decisions_tick] at ticked
      exact ⟨next, ticked, further⟩
  | write address value =>
      obtain ⟨config, written⟩ := run.act_write address value
      rw [written]
      exact ⟨ledger, balanced.reconfigure config, transfer run _ rfl rfl held⟩
  | replace config => exact ⟨ledger, balanced.reconfigure config, transfer run _ rfl rfl held⟩
  | slow change =>
      exact ⟨ledger, balanced.exchange (kept _ _ balanced.outlets), transfer run _ rfl rfl held⟩
  | other change =>
      exact ⟨ledger, balanced.exchange (kept _ _ balanced.outlets), transfer run _ rfl rfl held⟩
  | fast change =>
      exact ⟨ledger, balanced.exchange (kept _ _ balanced.outlets), transfer run _ rfl rfl held⟩

/-- Some balanced ledger lists what has left. -/
theorem Run.balanced_exits [Sink S] [Sink F] {relation : Outlets S F → (Outlet → List Word) → Prop}
    (follows : Follows relation) (config : Config) {outlets : Outlets S F}
    (initially : relation outlets fun _ => []) (actions : List (Action S F))
    (keeps : ∀ action ∈ actions, action.Keeps relation) :
    ∃ ledger, Balanced relation (Run.play (.ofOutlets config outlets) actions).router
        (Run.play (.ofOutlets config outlets) actions).samples
        (Run.play (.ofOutlets config outlets) actions).decisions ledger ∧
      ledger.exits = (Run.play (.ofOutlets config outlets) actions).exits := by
  refine Run.balanced_along (motive := fun run ledger => ledger.exits = run.exits) follows
    config initially actions keeps rfl ?_ ?_
  · intro run ledger next input _ entry listed
    rw [Run.exits_tick, ← listed]
    exact entry.exits_eq
  · intro run other ledger beats _ listed
    rw [listed, Run.exits, Run.exits, beats]

theorem Run.balanced [Sink S] [Sink F] {relation : Outlets S F → (Outlet → List Word) → Prop}
    (follows : Follows relation) (config : Config) {outlets : Outlets S F}
    (initially : relation outlets fun _ => []) (actions : List (Action S F))
    (keeps : ∀ action ∈ actions, action.Keeps relation) :
    ∃ ledger, Balanced relation (Run.play (.ofOutlets config outlets) actions).router
      (Run.play (.ofOutlets config outlets) actions).samples
      (Run.play (.ofOutlets config outlets) actions).decisions ledger := by
  obtain ⟨ledger, balanced, _⟩ := Run.balanced_exits follows config initially actions keeps
  exact ⟨ledger, balanced⟩

end FrameRouter
