import FrameRouter.Proofs.Engine.Conservation
import FrameRouter.Proofs.Engine.Handshake
import FrameRouter.Proofs.Engine.Refinement

/-!
# Quiescence

An idle router has nothing left inside: every accepted frame is complete and
has reached the sinks of its route to its end.  As long as it is offered no
word it stays at rest, and its sinks are handed nothing.
-/

namespace FrameRouter

open Cutting Normalization

/-- The words as which a frame is to reach the sink behind an outlet. -/
def Outlet.rendition : Outlet → List Word → List Word
  | .fast, frame => whole frame
  | _, frame => frame

theorem Outlet.whole_rendition (outlet : Outlet) {frame : List Word}
    (isWhole : Whole Word.last frame) : Whole Word.last (outlet.rendition frame) := by
  cases outlet with
  | slow => exact isWhole
  | other => exact isWhole
  | fast => exact whole_whole isWhole

/-- An incident in which the router is offered no word. -/
def Incident.Silent {V : Type} : Incident V → Prop
  | .tick input => input = none
  | _ => True

namespace Run

variable {S V : Type}

/-- Every accepted frame has been delivered, and nothing is left of it inside. -/
structure Quiescent [Sink S] (run : Run (Observed S) (Normalizer (Observed S))) : Prop where
  complete : ∀ frame ∈ run.frames, Whole Word.last frame
  decided : run.routes.length = run.frames.length
  delivered : ∀ outlet, (run.router.outlets.sink outlet).words =
    (run.frames.zip run.routes).flatMap fun (frame, route) =>
      route.share outlet (outlet.rendition frame)
  /-- No sink holds a part of a frame. -/
  ended : ∀ outlet, ∀ final ∈ (run.router.outlets.sink outlet).words.getLast?, final.last = true
  ring : run.router.ring.toList = []
  /-- The normalizer owes nothing, swallows nothing and remembers nothing. -/
  stage : run.router.outlets.fast.stage = .start

/-- There is no frame in flight, and the normalizer stands in front of a frame. -/
structure Resting (run : Run S (Normalizer S)) : Prop where
  phase : run.router.phase = .idle
  stage : run.router.outlets.fast.stage = .start

/-- A run at rest later on: nothing has been handed to the sinks in the meantime. -/
structure Undisturbed [Sink S] (run later : Run (Observed S) (Normalizer (Observed S))) :
    Prop where
  resting : later.Resting
  arrivals : ∀ outlet,
    (later.router.outlets.sink outlet).arrivals = (run.router.outlets.sink outlet).arrivals

variable [Sink S]

/-- A router at rest is idle as long as the sinks behind its outlets are. -/
theorem Resting.isIdle_iff {run : Run S (Normalizer S)} (resting : run.Resting) :
    run.router.isIdle = true ↔
      ∀ outlet, Sink.isIdle (run.router.outlets.sink outlet) = true := by
  have fast : Sink.isIdle run.router.outlets.fast = Sink.isIdle run.router.outlets.fast.inner := by
    change run.router.outlets.fast.isIdle = _
    unfold Normalizer.isIdle
    rw [resting.stage]
    rfl
  simp only [Router.isIdle, resting.phase, Outlets.isIdle, fast, beq_self_eq_true, Bool.true_and,
    Bool.and_eq_true]
  constructor
  · rintro ⟨⟨slowIdle, otherIdle⟩, fastIdle⟩ outlet
    cases outlet with
    | slow => exact slowIdle
    | other => exact otherIdle
    | fast => exact fastIdle
  · intro idle
    exact ⟨⟨idle .slow, idle .other⟩, idle .fast⟩

/-- Without a word a tick leaves a router at rest, and only lets its sinks advance. -/
theorem Resting.tick_none {run : Run S (Normalizer S)} (resting : run.Resting) :
    run.act (.tick none) =
      ⟨{ run.router with
          outlets := ⟨Sink.tick run.router.outlets.slow, Sink.tick run.router.outlets.other,
            { run.router.outlets.fast with inner := Sink.tick run.router.outlets.fast.inner }⟩ },
        run.beats ++ [⟨run.router, none⟩]⟩ := by
  have fast : Sink.tick run.router.outlets.fast =
      { run.router.outlets.fast with inner := Sink.tick run.router.outlets.fast.inner } :=
    Normalizer.tick_of_settled (by rw [resting.stage]; rfl)
  simp only [act, Router.tick, Router.act, resting.phase, Router.start, Outlets.tick, fast]

/-- An incident without a word disturbs no router at rest. -/
theorem Resting.act {run : Run (Observed S) (Normalizer (Observed S))} (resting : run.Resting)
    (visit : V → S → S) {incident : Incident V} (silent : incident.Silent) :
    run.Undisturbed (run.act (incident.action fun manner => Observed.alter (visit manner))) := by
  cases incident with
  | tick input =>
      have nothing : input = none := silent
      subst nothing
      rw [Incident.action, resting.tick_none]
      constructor
      · exact ⟨resting.phase, resting.stage⟩
      · intro outlet
        cases outlet <;> rfl
  | write address value =>
      obtain ⟨config, written⟩ := run.act_write address value
      rw [Incident.action, written]
      exact ⟨⟨resting.phase, resting.stage⟩, fun _ => rfl⟩
  | replace config => exact ⟨⟨resting.phase, resting.stage⟩, fun _ => rfl⟩
  | visit outlet manner =>
      constructor
      · cases outlet <;> exact ⟨resting.phase, resting.stage⟩
      · intro handed
        cases outlet <;> cases handed <;> rfl

theorem behind_append (config : Config) (sinks : Outlet → S) (act : V → S → S)
    (first second : List (Incident V)) :
    behind config sinks act (first ++ second) =
      (second.map (Incident.action act)).foldl Run.act (behind config sinks act first) := by
  simp only [behind, play, List.map_append, List.foldl_append]

/-- No number of incidents without a word disturbs a router at rest. -/
theorem Resting.undisturbed {run : Run (Observed S) (Normalizer (Observed S))}
    (resting : run.Resting) (visit : V → S → S) {incidents : List (Incident V)}
    (silent : ∀ incident ∈ incidents, incident.Silent) :
    run.Undisturbed ((incidents.map
      (Incident.action fun manner => Observed.alter (visit manner))).foldl Run.act run) := by
  induction incidents generalizing run with
  | nil => exact ⟨resting, fun _ => rfl⟩
  | cons incident incidents ih =>
      have first := resting.act visit (silent incident List.mem_cons_self)
      have others := ih first.resting fun other membership =>
        silent other (List.mem_cons_of_mem incident membership)
      exact ⟨others.resting, fun outlet => (others.arrivals outlet).trans (first.arrivals outlet)⟩

end Run

namespace Balanced

variable {S : Type} [Sink S] {run : Run (Observed S) (Normalizer (Observed S))} {ledger : Ledger}

/-- What an idle router was handed for an outlet are the frames of the routes that reach it. -/
theorem handed_of_idle {F : Type} [Sink F] {relation : Outlets S F → (Outlet → List Word) → Prop}
    {run : Run S F} (balanced : Balanced relation run.router run.samples run.decisions ledger)
    (idle : run.router.phase = .idle) (outlet : Outlet) :
    run.frames = ledger.passages.map Passage.words ∧
      ledger.handed outlet =
        (((run.frames.zip run.routes).filter fun sent => sent.2.reaches outlet).map
          Prod.fst).flatten := by
  have finished : run.finished = run.frames := if_pos idle
  obtain ⟨_, decision, _⟩ := balanced.flight.of_idle idle
  have shares := Route.flatMap_share (fun passage : Passage => passage.decision.route)
    Passage.words outlet ledger.passages
  constructor
  · rw [← finished, balanced.cut.1]
  · rw [← finished, balanced.finished_routes, Ledger.handed, Ledger.inFlight, decision,
      List.append_nil, List.filter_map, List.map_map]
    exact shares.trans List.flatMap_def

/-- An idle run whose sinks have received what they were handed is quiescent. -/
theorem quiescent
    (balanced : Balanced (Outlets.Tracked Observed.Received Observed.Received
      (Normalizer.Normalizes Observed.Received)) run.router run.samples run.decisions ledger)
    (idle : run.router.isIdle = true) : run.Quiescent := by
  obtain ⟨atRest, outletsIdle⟩ := Bool.and_eq_true_iff.mp idle
  have phase : run.router.phase = .idle := beq_iff_eq.mp atRest
  have settled := Normalizer.owed_of_isIdle (Bool.and_eq_true_iff.mp outletsIdle).2
  obtain ⟨slow, other, passed, fast, accounts⟩ := balanced.outlets
  obtain ⟨current, _, _⟩ := balanced.flight.of_idle phase
  have frames := (balanced.handed_of_idle phase .slow).1
  have complete : ∀ frame ∈ run.frames, Whole Word.last frame := by
    rw [frames]
    intro frame membership
    obtain ⟨passage, listed, rfl⟩ := List.mem_map.mp membership
    exact (balanced.records.sound passage listed).whole.map fun _ => rfl
  have reached (outlet : Outlet) :
      ∀ frame ∈ ((run.frames.zip run.routes).filter fun sent => sent.2.reaches outlet).map
        Prod.fst, Whole Word.last frame := by
    intro frame membership
    obtain ⟨sent, listed, rfl⟩ := List.mem_map.mp membership
    exact complete sent.1 (List.of_mem_zip (List.mem_filter.mp listed).1).1
  rw [(balanced.handed_of_idle phase .fast).2] at accounts
  have normalized := accounts.of_flatten (reached .fast) settled
  -- Behind whole frames nothing of a frame is open, so the normalizer has started over.
  have stage : run.router.outlets.fast.stage = .start := by
    have fits := accounts.fits
    have rest := (complete_remainder (reached .fast) Open.nil).2
    rw [List.append_nil] at rest
    rw [rest] at fits
    exact fits.eq_start settled
  have delivered : ∀ outlet, (run.router.outlets.sink outlet).words =
      (((run.frames.zip run.routes).filter fun sent => sent.2.reaches outlet).map
        fun sent => outlet.rendition sent.1).flatten := by
    intro outlet
    cases outlet with
    | slow => exact slow.1.trans (balanced.handed_of_idle phase .slow).2
    | other => exact other.1.trans (balanced.handed_of_idle phase .other).2
    | fast =>
        rw [List.flatMap_def, List.map_map] at normalized
        exact fast.1.trans normalized
  refine ⟨complete, ?_, ?_, ?_, ?_, stage⟩
  · rw [balanced.routes, phase, frames]
    simp [Phase.route?]
  · intro outlet
    rw [delivered, Route.flatMap_share (fun sent : List Word × Route => sent.2)
      (fun sent => outlet.rendition sent.1), List.flatMap_def]
  · intro outlet
    rw [delivered]
    refine ends_of_mem_getLast? ?_
    intro words membership
    obtain ⟨sent, listed, rfl⟩ := List.mem_map.mp membership
    exact outlet.whole_rendition (reached outlet sent.1 (List.mem_map_of_mem listed))
  · have split := balanced.flight.words
    rw [current, List.map_nil] at split
    exact (List.append_eq_nil_iff.mp split.symm).2

end Balanced

namespace Run

/-- Sinks visited in this way leave a router idle that is offered no word. -/
def StaysIdle {S V : Type} [Sink S] (act : V → S → S) : Prop :=
  ∀ (config : Config) (sinks : Outlet → S) (incidents further : List (Incident V)),
    (behind config sinks act incidents).router.isIdle = true →
      (∀ incident ∈ further, incident.Silent) →
        (behind config sinks act (incidents ++ further)).router.isIdle = true

section

variable {S V : Type} [Sink S]

/-- An idle run has been quiescent with its sinks observed, and is not disturbed by silence. -/
theorem quiescent_behind (config : Config) (sinks : Outlet → S) (act : V → S → S)
    {incidents : List (Incident V)}
    (idle : (behind config sinks act incidents).router.isIdle = true) :
    (observedBehind config sinks act incidents).Quiescent ∧
      ∀ further : List (Incident V), (∀ incident ∈ further, incident.Silent) →
        (observedBehind config sinks act incidents).Undisturbed
          (observedBehind config sinks act (incidents ++ further)) := by
  obtain ⟨ledger, balanced⟩ := balanced_tracked (fun _ => Observed.Received)
    (fun manner => Observed.alter (act manner)) (fun outlet => .fresh (sinks outlet))
    (fun _ => Observed.tracks_received S) (fun outlet => Observed.received_fresh (sinks outlet))
    (fun _ _ _ _ received => received) config incidents
  have observedIdle : (observedBehind config sinks act incidents).router.isIdle = true := by
    rw [← observedBehind_map] at idle
    simpa [Router.isIdle, map, Router.map, Outlets.isIdle, Outlets.map,
      (Observed.faithful_sink S).isIdle,
      (Normalizer.faithful_map (Observed.faithful_sink S)).isIdle] using idle
  have quiescent : (observedBehind config sinks act incidents).Quiescent :=
    balanced.quiescent observedIdle
  refine ⟨quiescent, ?_⟩
  intro further silent
  have phase := beq_iff_eq.mp (Bool.and_eq_true_iff.mp observedIdle).1
  have resting : (observedBehind config sinks act incidents).Resting := ⟨phase, quiescent.stage⟩
  have later : observedBehind config sinks act (incidents ++ further) = _ :=
    behind_append config _ _ incidents further
  rw [later]
  exact resting.undisturbed act silent

/-- Sinks that are never busy by themselves leave an idle router idle. -/
theorem staysIdle_of_isIdle (never : ∀ sink : S, Sink.isIdle sink = true) (act : V → S → S) :
    StaysIdle act := by
  intro config sinks incidents further idle silent
  have resting := ((quiescent_behind config sinks act idle).2 further silent).resting
  have alsoResting : (behind config sinks act (incidents ++ further)).Resting := by
    rw [← observedBehind_map]
    exact ⟨resting.phase, resting.stage⟩
  exact alsoResting.isIdle_iff.mpr fun _ => never _

end

/--
Over sinks of any kind, visited in any way, a run that is idle has delivered
every accepted frame to its end, and nothing more is handed to the sinks until a
word is offered.  Queues and scripted sinks leave the router idle meanwhile.
-/
theorem quiescence :
    (∀ (S V : Type) [Sink S] (config : Config) (sinks : Outlet → S) (act : V → S → S)
        (incidents : List (Incident V)),
      (behind config sinks act incidents).router.isIdle = true →
        (observedBehind config sinks act incidents).map Observed.sink
            (Normalizer.map Observed.sink) = behind config sinks act incidents ∧
          (observedBehind config sinks act incidents).Quiescent ∧
          ∀ further : List (Incident V), (∀ incident ∈ further, incident.Silent) →
            (observedBehind config sinks act incidents).Undisturbed
              (observedBehind config sinks act (incidents ++ further))) ∧
      StaysIdle (fun taking (queue : Queue) => queue.take taking) ∧
      StaysIdle fun schedule (sink : ScriptedSink) => sink.reschedule schedule := by
  refine ⟨?_, ?_, ?_⟩
  · intro S V _ config sinks act incidents idle
    constructor
    · exact observedBehind_map config sinks act incidents
    · exact quiescent_behind config sinks act idle
  · exact staysIdle_of_isIdle (fun _ => rfl) _
  · exact staysIdle_of_isIdle (fun _ => rfl) _

/-- One offered word or none in every tick, behind which all queues are drained. -/
def attended (inputs : List (Option Word)) : List (Incident Queue.Taking) :=
  inputs.flatMap fun input =>
    [.tick input, .visit .slow .drain, .visit .other .drain, .visit .fast .drain]

/-- A broadcast, and then a datagram that has to be filled up, through queues of one word. -/
def served : List (Incident Queue.Taking) :=
  attended (Delivery.announcement.map some ++ List.replicate 4 none ++
    Delivery.datagram.map some ++ List.replicate 15 none)

/-- Both frames have been delivered, and three silent ticks change nothing. -/
theorem quiescence_filled :
    let queues := fun _ : Outlet => Queue.ofDepth 1
    let take := fun (taking : Queue.Taking) (queue : Queue) => queue.take taking
    let run := observedBehind Delivery.station queues take served
    let later := observedBehind Delivery.station queues take
      (served ++ attended [none, none, none])
    (behind Delivery.station queues take served).router.isIdle = true ∧ run.Quiescent ∧
      run.frames = [Delivery.announcement, Delivery.datagram] ∧ run.routes = [.both, .fast] ∧
      (later.router.outlets.sink .fast).words = whole Delivery.datagram ∧
      (behind Delivery.station queues take
        (served ++ attended [none, none, none])).router.isIdle = true := by
  intro queues take run later
  have idle : (behind Delivery.station queues take served).router.isIdle = true := by
    decide +kernel
  have frames : run.frames = [Delivery.announcement, Delivery.datagram] := by decide +kernel
  have routes : run.routes = [.both, .fast] := by decide +kernel
  have silent : ∀ incident ∈ attended [none, none, none], incident.Silent := by
    simp [attended, Incident.Silent]
  obtain ⟨_, quiescent, undisturbed⟩ :=
    quiescence.1 Queue Queue.Taking Delivery.station queues take served idle
  have same := (undisturbed (attended [none, none, none]) silent).arrivals .fast
  have fast : (later.router.outlets.sink .fast).words = whole Delivery.datagram := by
    have delivered := quiescent.delivered .fast
    rw [frames, routes] at delivered
    exact (congrArg (List.map Arrival.word) same).trans (delivered.trans (by rfl))
  exact ⟨idle, quiescent, frames, routes, fast,
    quiescence.2.1 Delivery.station queues served _ idle silent⟩

end Run

end FrameRouter
