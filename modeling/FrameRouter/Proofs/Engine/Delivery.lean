import FrameRouter.Engine.Session
import FrameRouter.Proofs.Engine.Feeding
import FrameRouter.Proofs.Engine.Ledger
import FrameRouter.Proofs.Sink.Consumer
import FrameRouter.Proofs.Sink.NormalizedStream

/-!
# Deliveries

A session is given frames and then steps, while consumers visit its outlets.
Through all steps and visits the books show where the words of the frames are:
accepted by the router, or still at the source.
-/

namespace FrameRouter

/-- What can happen during a delivery. -/
inductive Move (S : Type) [Sink S] [Consumer S] where
  | step
  | visit (outlet : Outlet) (visit : Consumer.Visit S)

/-- A session and the frames that visits have handed out at each outlet. -/
structure Delivery (S : Type) where
  session : Session S
  received : Outlet → List Frame

/-- The tick of the next step. -/
def Session.beat {S : Type} (session : Session S) : Beat S (Normalizer S) :=
  ⟨session.router, session.source.current⟩

/-- The word that the next step takes is the presented one. -/
theorem Session.word_beat {S : Type} [Sink S] (session : Session S) :
    session.beat.sample?.map Sample.word =
      if (session.router.tick session.source.current).2 = true then session.source.current
      else none := by
  have sampled : session.beat.sample? =
      if (session.router.tick session.source.current).2 = true then
        session.source.current.map fun word => ⟨word, session.router.config⟩
      else none := rfl
  rw [sampled]
  split
  · rw [Option.map_map]
    exact Option.map_id'
  · rfl

/-- A step moves past the presented word if the router has accepted it. -/
theorem Session.step_fst {S : Type} [Sink S] (session : Session S) :
    session.step.1 =
      ⟨(session.router.tick session.source.current).1,
        if (session.router.tick session.source.current).2 then session.source.advance
        else session.source⟩ := by
  unfold step
  split <;> rename_i ticked <;> rw [ticked] <;> rfl

/-- Behind a step the outlets have been handed the word that leaves. -/
theorem Session.outlets_step {S : Type} [Sink S] (session : Session S) :
    session.step.1.router.outlets =
      session.router.advanced.released session.source.current := by
  rw [step_fst]
  exact (session.router.tick_turn session.source.current).outlets_eq

theorem Session.orderly_step {S : Type} [Sink S] {session : Session S}
    (orderly : session.source.Orderly) : session.step.1.source.Orderly := by
  rw [step_fst]
  dsimp only
  split
  · exact orderly.advance
  · exact orderly

namespace Delivery

variable {S : Type}

/-- Each sink holds what its words are, the fast one behind the normalizer. -/
def Related (holds : List Frame → S → List Word → Prop) (received : Outlet → List Frame) :
    Outlets S → (Outlet → List Word) → Prop :=
  Outlets.Tracked (holds (received .slow)) (holds (received .other))
    (Normalizer.Normalizes (holds (received .fast)))

/-- Where all words of the frames are in the course of a delivery. -/
structure Accounts (holds : List Frame → S → List Word → Prop) (config : Config)
    (frames : List Frame) (delivery : Delivery S) (samples : List Sample)
    (decisions : List Decision) (ledger : Ledger) : Prop where
  balanced : Balanced (Related holds delivery.received) delivery.session.router samples decisions
    ledger
  words : samples.map Sample.word ++ delivery.session.source.remaining =
    frames.flatMap Frame.words
  constant : delivery.session.router.config = config
  sampled : ∀ sample ∈ samples, sample.config = config
  decided : ∀ decision ∈ decisions, decision.policy = config.policy

variable {holds : List Frame → S → List Word → Prop} {config : Config} {frames : List Frame}
  {delivery : Delivery S} {samples : List Sample} {decisions : List Decision} {ledger : Ledger}

section Books

/-- The books on frames that wait at the source of a session over fresh sinks. -/
theorem accounts_sent (config : Config) (frames : List Frame) {slow other fast : S}
    (slowFresh : holds [] slow []) (otherFresh : holds [] other []) (fastFresh : holds [] fast []) :
    Accounts holds config frames
      ⟨(Session.ofSinks config slow other fast).send frames, fun _ => []⟩ [] [] .blank where
  balanced := .initial config
    ⟨slowFresh, otherFresh, Normalizer.normalizes_around fastFresh⟩
  words := Source.remaining_pushAll frames
  constant := rfl
  sampled := by simp
  decided := by simp

variable [Sink S]

theorem follows_of_tracks (tracks : ∀ received, Tracks (holds received))
    (received : Outlet → List Frame) : Follows (Related holds received) :=
  .tracked (tracks _) (tracks _) (Normalizer.tracks_normalizes (tracks _))

/-- The books show the same when the sinks have advanced by one tick. -/
theorem Accounts.advanced (tracks : ∀ received, Tracks (holds received))
    (accounts : Accounts holds config frames delivery samples decisions ledger) :
    Accounts holds config frames
      { delivery with
        session := ⟨delivery.session.router.advanced, delivery.session.source⟩ }
      samples decisions ledger where
  balanced := accounts.balanced.advance (follows_of_tracks tracks delivery.received)
  words := accounts.words
  constant := accounts.constant
  sampled := accounts.sampled
  decided := accounts.decided

/-- A step puts the accepted words and all that its turn enters into the books. -/
theorem Accounts.stepped (tracks : ∀ received, Tracks (holds received))
    (accounts : Accounts holds config frames delivery samples decisions ledger) :
    ∃ next,
      ledger.Entry delivery.session.router.advanced delivery.session.source.current
          (delivery.session.router.advanced.exit? delivery.session.source.current) next ∧
        Accounts holds config frames { delivery with session := delivery.session.step.1 }
          (samples ++ delivery.session.beat.sample?.toList)
          (decisions ++ delivery.session.beat.decision?.toList) next := by
  have follows := follows_of_tracks tracks delivery.received
  have router : delivery.session.step.1.router =
      (delivery.session.router.tick delivery.session.source.current).1 := by
    rw [Session.step_fst]
  obtain ⟨next, entry, balanced⟩ := accounts.balanced.tick follows delivery.session.source.current
  rw [← router] at balanced
  refine ⟨next, entry, balanced, ?_, ?_, Beat.config_append accounts.constant accounts.sampled,
    Beat.policy_append accounts.constant accounts.decided⟩
  · rw [← accounts.words, Session.step_fst, List.map_append, List.append_assoc]
    congr 1
    rw [← Option.toList_map, Session.word_beat]
    by_cases accepted : (delivery.session.router.tick delivery.session.source.current).2 = true
    · rw [if_pos accepted, if_pos accepted]
      cases presented : delivery.session.source.current with
      | none => simp [delivery.session.source.advance_of_none presented]
      | some word => simp [Source.remaining_advance presented]
    · rw [if_neg accepted, if_neg accepted]
      rfl
  · rw [router, (Router.tick_turn _ _).config_eq]
    exact accounts.constant

end Books

variable [Sink S] [Consumer S]

/-- A session over fresh sinks, at whose source the frames wait. -/
def start (config : Config) (setups : Outlet → Consumer.Setup S) (frames : List Frame) :
    Delivery S where
  session :=
    (Session.ofSinks config (Consumer.setUp (setups .slow)) (Consumer.setUp (setups .other))
      (Consumer.setUp (setups .fast))).send frames
  received := fun _ => []

/-- Let one thing happen. -/
def move (delivery : Delivery S) : Move S → Delivery S
  | .step => { delivery with session := delivery.session.step.1 }
  | .visit outlet visit =>
      let (frames, sink) := Consumer.visit visit (delivery.session.router.outlets.sink outlet)
      { session :=
          { delivery.session with router := delivery.session.router.setSink outlet sink }
        received :=
          Function.update delivery.received outlet (delivery.received outlet ++ frames) }

def run (config : Config) (setups : Outlet → Consumer.Setup S) (frames : List Frame)
    (moves : List (Move S)) : Delivery S :=
  moves.foldl move (start config setups frames)

/-- All frames that have come out at an outlet, those to be had in the end included. -/
def delivered (delivery : Delivery S) (outlet : Outlet) : List Frame :=
  delivery.received outlet ++
    Consumer.collect (delivery.session.router.outlets.sink outlet)

theorem accounts_start (keeps : Consumer.Keeps holds) (config : Config)
    (setups : Outlet → Consumer.Setup S) (frames : List Frame) :
    Accounts holds config frames (start config setups frames) [] [] .blank :=
  accounts_sent config frames (keeps.setUp _) (keeps.setUp _) (keeps.setUp _)

theorem follows_related (keeps : Consumer.Keeps holds) (received : Outlet → List Frame) :
    Follows (Related holds received) := follows_of_tracks keeps.tracks received

theorem Accounts.visit (keeps : Consumer.Keeps holds)
    (accounts : Accounts holds config frames delivery samples decisions ledger)
    (outlet : Outlet) (visit : Consumer.Visit S) :
    Accounts holds config frames (delivery.move (.visit outlet visit)) samples decisions
      ledger where
  balanced := by
    refine accounts.balanced.exchange ?_
    obtain ⟨slow, other, fast⟩ := accounts.balanced.outlets
    cases outlet with
    | slow => exact ⟨keeps.visit visit slow, other, fast⟩
    | other => exact ⟨slow, keeps.visit visit other, fast⟩
    | fast =>
        obtain ⟨passed, related, stage⟩ := fast
        exact ⟨slow, other, passed, keeps.visit visit related, stage⟩
  words := accounts.words
  constant := accounts.constant
  sampled := accounts.sampled
  decided := accounts.decided

/-- A step is entered into the books. -/
theorem Accounts.step (keeps : Consumer.Keeps holds)
    (accounts : Accounts holds config frames delivery samples decisions ledger) :
    ∃ next,
      ledger.Entry delivery.session.router.advanced delivery.session.source.current
          (delivery.session.router.advanced.exit? delivery.session.source.current) next ∧
        Accounts holds config frames (delivery.move .step)
          (samples ++ delivery.session.beat.sample?.toList)
          (decisions ++ delivery.session.beat.decision?.toList) next :=
  accounts.stepped keeps.tracks

theorem accounts_run (keeps : Consumer.Keeps holds) (config : Config)
    (setups : Outlet → Consumer.Setup S) (frames : List Frame) (moves : List (Move S)) :
    ∃ samples decisions ledger, Accounts holds config frames (run config setups frames moves)
      samples decisions ledger := by
  refine List.foldlRecOn moves move
    (motive := fun delivery => ∃ samples decisions ledger,
      Accounts holds config frames delivery samples decisions ledger)
    ⟨[], [], .blank, accounts_start keeps config setups frames⟩ ?_
  rintro delivery ⟨samples, decisions, ledger, accounts⟩ next _
  cases next with
  | step =>
      obtain ⟨next, _, further⟩ := accounts.step keeps
      exact ⟨_, _, next, further⟩
  | visit outlet visit => exact ⟨samples, decisions, ledger, accounts.visit keeps outlet visit⟩

end Delivery

end FrameRouter
