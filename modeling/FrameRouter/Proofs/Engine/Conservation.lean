import FrameRouter.Proofs.Engine.Ledger
import FrameRouter.Proofs.Engine.Observation

/-!
# Conservation of words

No accepted word is lost, doubled, altered, moved or mixed with another frame.
What a sink has been handed are the whole frames decided for its outlet, in
the order of their arrival, and behind them the words of the frame in flight
that are no longer in the ring.
-/

namespace FrameRouter

open Cutting

namespace Run

variable {S F : Type} [Sink S] [Sink F]

/-- The frames that the accepted words make up; the last one may be open. -/
def frames (run : Run S F) : List (List Word) := pieces Word.last run.words

/-- The frames that have left. -/
def finished (run : Run S F) : List (List Word) :=
  if run.router.phase = .idle then run.frames else run.frames.dropLast

/-- The accepted words of the frame in flight. -/
def inFlight (run : Run S F) : List Word :=
  if run.router.phase = .idle then [] else run.frames.getLastD []

/-- The accepted words of the frame in flight without those in the ring. -/
def departed (run : Run S F) : List Word :=
  run.inFlight.take (run.inFlight.length - run.router.ring.size)

def routes (run : Run S F) : List Route := run.decisions.map Decision.route

/-- What an outlet has of the frame in flight. -/
def underway (run : Run S F) (outlet : Outlet) : List Word :=
  match run.router.phase with
  | .forwarding route => route.share outlet run.departed
  | _ => []

/-- Every accepted word is where the routes of the frames and the ring have it. -/
structure Conserved (run : Run (Observed S) (Observed F)) : Prop where
  whole : ∀ frame ∈ run.finished, Whole Word.last frame
  accepted : run.words = run.finished.flatten ++ run.inFlight
  held : run.inFlight = run.departed ++ run.router.ring.toList
  /-- Each frame that has left was decided once, and so is one that is leaving. -/
  decided : run.routes.length = run.finished.length + run.router.phase.route?.toList.length
  current : run.routes.drop run.finished.length = run.router.phase.route?.toList
  handed : ∀ outlet, run.router.outlets.handed outlet =
    (run.finished.zip run.routes).flatMap (fun (frame, route) => route.share outlet frame) ++
      run.underway outlet

end Run

namespace Outlets

variable {S F : Type}

/-- The records of observed sinks show what each of them was handed. -/
def Recorded : Outlets (Observed S) (Observed F) → (Outlet → List Word) → Prop :=
  Tracked Observed.Received Observed.Received Observed.Received

theorem Recorded.handed_eq {outlets : Outlets (Observed S) (Observed F)}
    {handed : Outlet → List Word} (recorded : outlets.Recorded handed) :
    outlets.handed = handed := by
  funext outlet
  cases outlet with
  | slow => exact recorded.slow.1
  | other => exact recorded.other.1
  | fast => exact recorded.fast.1

theorem follows_recorded [Sink S] [Sink F] :
    Follows (Recorded : Outlets (Observed S) (Observed F) → (Outlet → List Word) → Prop) :=
  .tracked (Observed.tracks_received S) (Observed.tracks_received S)
    (Observed.tracks_received F)

end Outlets

namespace Balanced

variable {S F : Type} [Sink S] [Sink F]
  {relation : Outlets S F → (Outlet → List Word) → Prop} {run : Run S F} {ledger : Ledger}

theorem words
    (balanced : Balanced relation run.router run.samples run.decisions ledger) :
    run.words = (ledger.passages.map Passage.words).flatten ++ ledger.current.map Sample.word := by
  rw [Run.words, balanced.records.samples, List.map_append, List.map_flatMap]
  rfl

/-- The frames of the accepted words are those that have left and the one in flight. -/
theorem frames (balanced : Balanced relation run.router run.samples run.decisions ledger) :
    run.frames = ledger.passages.map Passage.words ++
      if run.router.phase = .idle then [] else [ledger.current.map Sample.word] := by
  have same (sample : Sample) : sample.word.last = sample.ends := rfl
  rw [Run.frames, Run.words, pieces_map Sample.word same, balanced.pieces, List.map_append,
    List.map_map, apply_ite (List.map (List.map Sample.word))]
  rfl

/-- The frames cut from the accepted words are those of the books. -/
theorem cut (balanced : Balanced relation run.router run.samples run.decisions ledger) :
    run.finished = ledger.passages.map Passage.words ∧
      run.inFlight = ledger.current.map Sample.word := by
  unfold Run.finished Run.inFlight
  rw [balanced.frames]
  by_cases idle : run.router.phase = .idle
  · obtain ⟨current, _, _⟩ := balanced.flight.of_idle idle
    simp [idle, current]
  · simp [idle]

/-- The words of the frame in flight that are not in the ring have left. -/
theorem departed
    (balanced : Balanced relation run.router run.samples run.decisions ledger) :
    run.departed = ledger.moved := by
  have split := balanced.flight.words
  unfold Run.departed
  rw [balanced.cut.2, split, ← CaptureRing.length_toList]
  simp

theorem routes (balanced : Balanced relation run.router run.samples run.decisions ledger) :
    run.routes = ledger.passages.map (Decision.route ∘ Passage.decision) ++
      run.router.phase.route?.toList := by
  rw [Run.routes, balanced.records.decisions, List.map_append, List.map_map,
    balanced.flight.route?_eq, Option.toList_map]

/-- The frames that have left, with the routes by which they did. -/
theorem finished_routes
    (balanced : Balanced relation run.router run.samples run.decisions ledger) :
    run.finished.zip run.routes =
      ledger.passages.map fun passage => (passage.words, passage.decision.route) := by
  rw [balanced.cut.1, balanced.routes, ← List.append_nil (ledger.passages.map Passage.words),
    List.zip_append (by simp), List.zip_nil_left, List.append_nil, List.zip_map']
  rfl

/-- A balanced ledger of observed sinks shows where every word is. -/
theorem conserved {run : Run (Observed S) (Observed F)}
    (balanced : Balanced Outlets.Recorded run.router run.samples run.decisions ledger) :
    run.Conserved := by
  obtain ⟨finished, inFlight⟩ := balanced.cut
  refine ⟨?_, ?_, ?_, ?_, ?_, ?_⟩
  · rw [finished]
    intro frame membership
    obtain ⟨passage, listed, rfl⟩ := List.mem_map.mp membership
    exact (balanced.records.sound passage listed).whole.map fun _ => rfl
  · rw [finished, inFlight]
    exact balanced.words
  · rw [inFlight, balanced.departed]
    exact balanced.flight.words
  · rw [balanced.routes, finished]
    simp
  · rw [balanced.routes, finished]
    exact List.drop_left' (by simp)
  · intro outlet
    have left : ledger.inFlight outlet = run.underway outlet := by
      unfold Ledger.inFlight Run.underway
      rw [balanced.departed]
      have route := balanced.flight.route?_eq
      cases decided : ledger.decision <;> cases phase : run.router.phase <;>
        simp_all [Phase.route?]
    rw [balanced.outlets.handed_eq, Ledger.handed, left, balanced.finished_routes,
      List.flatMap_map]
    rfl

end Balanced

/-- The changes of observed sinks from outside leave the records alone. -/
theorem Action.keeps_recorded {S F : Type} (action : Action S F) :
    action.observed.Keeps Outlets.Recorded := by
  cases action with
  | tick => trivial
  | write => trivial
  | replace => trivial
  | slow change => exact fun _ _ recorded => ⟨recorded.slow, recorded.other, recorded.fast⟩
  | other change => exact fun _ _ recorded => ⟨recorded.slow, recorded.other, recorded.fast⟩
  | fast change => exact fun _ _ recorded => ⟨recorded.slow, recorded.other, recorded.fast⟩

/-- The sinks of an observed run have on record what its ledger lists. -/
theorem Run.balanced_observed {S F : Type} [Sink S] [Sink F] (config : Config)
    (outlets : Outlets S F) (actions : List (Action S F)) :
    ∃ ledger, Balanced Outlets.Recorded (Run.observed config outlets actions).router
        (Run.observed config outlets actions).samples
        (Run.observed config outlets actions).decisions ledger ∧
      ledger.exits = (Run.observed config outlets actions).exits := by
  have keeps : ∀ action ∈ actions.map Action.observed, action.Keeps Outlets.Recorded := by
    intro action membership
    obtain ⟨original, _, rfl⟩ := List.mem_map.mp membership
    exact original.keeps_recorded
  have initially : Outlets.Recorded outlets.observed fun _ => [] :=
    ⟨Observed.received_fresh _, Observed.received_fresh _, Observed.received_fresh _⟩
  exact Run.balanced_exits Outlets.follows_recorded config initially
    (actions.map Action.observed) keeps

/--
In every state of every run, whatever ticks, writes, configurations and changes
of its sinks have led there, all words are conserved.  Observing the sinks has
not changed the run.
-/
theorem Run.conservation {S : Type} [Sink S] (config : Config) (outlets : Outlets S)
    (actions : List (Action S (Normalizer S))) :
    (Run.observed config outlets actions).map Observed.sink Observed.sink =
        Run.play (.ofOutlets config outlets) actions ∧
      (Run.observed config outlets actions).Conserved := by
  refine ⟨Run.observed_map config outlets actions, ?_⟩
  obtain ⟨ledger, balanced, _⟩ := Run.balanced_observed config outlets actions
  exact balanced.conserved

end FrameRouter
