import FrameRouter.Proofs.Engine.Ledger
import FrameRouter.Proofs.Engine.Observation
import FrameRouter.Proofs.Sink.Consumer
import FrameRouter.Proofs.Sink.Feed

/-!
# Handshakes

Whatever happens to a router, a word reaches a sink only while the sink is
ready for it.  This holds of the sink behind the normalizer too, which gets
words from two sides: those that the router hands over, and the zero words that
fill up a frame.  A queue therefore never holds more than it has room for.
-/

namespace FrameRouter

/-- What can happen to a router whose sinks take visits of one kind. -/
inductive Incident (V : Type) where
  | tick (input : Option Word)
  | write (address : UInt8) (value : UInt32)
  | replace (config : Config)
  /-- The sink behind an outlet is visited, as by its consumer. -/
  | visit (outlet : Outlet) (manner : V)

namespace Incident

variable {S V : Type}

/-- A visit at the fast outlet reaches the sink behind the normalizer. -/
def action (act : V → S → S) : Incident V → Action S (Normalizer S)
  | .tick input => .tick input
  | .write address value => .write address value
  | .replace config => .replace config
  | .visit .slow manner => .slow (act manner)
  | .visit .other manner => .other (act manner)
  | .visit .fast manner =>
      .fast fun normalizer => { normalizer with inner := act manner normalizer.inner }

end Incident

namespace Run

variable {S T V : Type}

/-- A run over the sinks behind the outlets, from the initial state of a router. -/
def behind [Sink S] (config : Config) (sinks : Outlet → S) (act : V → S → S)
    (incidents : List (Incident V)) : Run S (Normalizer S) :=
  play (.ofOutlets config (.ofSinks (sinks .slow) (sinks .other) (sinks .fast)))
    (incidents.map (Incident.action act))

/-- The same run with every sink behind the outlets observed. -/
def observedBehind [Sink S] (config : Config) (sinks : Outlet → S) (act : V → S → S)
    (incidents : List (Incident V)) : Run (Observed S) (Normalizer (Observed S)) :=
  behind config (fun outlet => .fresh (sinks outlet)) (fun manner => Observed.alter (act manner))
    incidents

/-- Every word that has reached a sink has met it in readiness. -/
def Heeded (run : Run (Observed S) (Normalizer (Observed S))) : Prop :=
  ∀ outlet, ∀ arrival ∈ (run.router.outlets.sink outlet).arrivals, arrival.ready = true

section Forgetting

variable [Sink S] [Sink T] {image : S → T} {act : V → S → S} {imageAct : V → T → T}

/-- An incident happens to the images of the sinks as to the sinks. -/
theorem act_incident_map (faithful : Sink.Faithful image)
    (commutes : ∀ manner sink, image (act manner sink) = imageAct manner (image sink))
    (run : Run S (Normalizer S)) (incident : Incident V) :
    (run.act (incident.action act)).map image (Normalizer.map image) =
      (run.map image (Normalizer.map image)).act (incident.action imageAct) := by
  cases incident with
  | tick input =>
      have ticked := run.router.tick_map faithful (Normalizer.faithful_map faithful) input
      simp [Incident.action, Run.act, map, ticked]
  | write address value =>
      simp only [Incident.action, Run.act, Router.write, map, Router.map]
      cases run.router.config.write address value <;> rfl
  | replace config => rfl
  | visit outlet manner =>
      cases outlet <;>
        simp [Incident.action, Run.act, map, Router.map, Outlets.map, Normalizer.map, commutes]

theorem behind_map (faithful : Sink.Faithful image)
    (commutes : ∀ manner sink, image (act manner sink) = imageAct manner (image sink))
    (config : Config) (sinks : Outlet → S) (incidents : List (Incident V)) :
    (behind config sinks act incidents).map image (Normalizer.map image) =
      behind config (fun outlet => image (sinks outlet)) imageAct incidents := by
  unfold behind play
  rw [List.foldl_map, List.foldl_map]
  refine (List.foldl_hom (map image (Normalizer.map image)) ?_).symm
  intro run incident
  exact (act_incident_map faithful commutes run incident).symm

end Forgetting

/-- Observing the sinks behind the outlets has not changed the run. -/
theorem observedBehind_map [Sink S] (config : Config) (sinks : Outlet → S) (act : V → S → S)
    (incidents : List (Incident V)) :
    (observedBehind config sinks act incidents).map Observed.sink
        (Normalizer.map Observed.sink) = behind config sinks act incidents :=
  behind_map (Observed.faithful_sink S) (fun _ _ => rfl) config _ incidents

/-- A run over the sinks behind the outlets has a balanced ledger if visits keep the relation. -/
theorem balanced_behind [Sink S] {relation : Outlets S → (Outlet → List Word) → Prop}
    (follows : Follows relation) {motive : Run S (Normalizer S) → Ledger → Prop}
    (config : Config) (sinks : Outlet → S) (act : V → S → S)
    (initially : relation (.ofSinks (sinks .slow) (sinks .other) (sinks .fast)) fun _ => [])
    (visit : ∀ outlet manner outlets handed, relation outlets handed →
      relation (outlets.setSink (act manner (outlets.sink outlet)) outlet) handed)
    (incidents : List (Incident V))
    (blank : motive
      (.start (.ofOutlets config (.ofSinks (sinks .slow) (sinks .other) (sinks .fast)))) .blank)
    (tick : ∀ {run : Run S (Normalizer S)} {ledger next : Ledger} (input : Option Word),
      Balanced relation run.router run.samples run.decisions ledger →
      ledger.Entry run.router.advanced input (run.router.advanced.exit? input) next →
      motive run ledger → motive (run.act (.tick input)) next)
    (transfer : ∀ (run other : Run S (Normalizer S)) {ledger : Ledger},
      other.beats = run.beats → other.router.counters = run.router.counters →
      motive run ledger → motive other ledger) :
    ∃ ledger, Balanced relation (behind config sinks act incidents).router
        (behind config sinks act incidents).samples
        (behind config sinks act incidents).decisions ledger ∧
      motive (behind config sinks act incidents) ledger := by
  refine balanced_along follows config initially (incidents.map (Incident.action act)) ?_ blank tick
    transfer
  intro action membership
  obtain ⟨incident, _, rfl⟩ := List.mem_map.mp membership
  cases incident with
  | tick => trivial
  | write => trivial
  | replace => trivial
  | visit outlet manner =>
      cases outlet with
      | slow => exact visit .slow manner
      | other => exact visit .other manner
      | fast => exact visit .fast manner

/-- What sinks track follows the outlets, the fast one behind the normalizer. -/
theorem follows_behind [Sink S] {relation : Outlet → S → List Word → Prop}
    (tracks : ∀ outlet, Tracks (relation outlet)) :
    Follows (Outlets.Tracked (relation .slow) (relation .other)
      (Normalizer.Normalizes (relation .fast))) :=
  .tracked (tracks .slow) (tracks .other) (Normalizer.tracks_normalizes (tracks .fast))

/-- What sinks track, and their visits keep, some ledger lists. -/
theorem balanced_tracked [Sink S] (relation : Outlet → S → List Word → Prop) (act : V → S → S)
    (sinks : Outlet → S) (tracks : ∀ outlet, Tracks (relation outlet))
    (initially : ∀ outlet, relation outlet (sinks outlet) [])
    (keeps : ∀ outlet manner sink words, relation outlet sink words →
      relation outlet (act manner sink) words)
    (config : Config) (incidents : List (Incident V)) :
    ∃ ledger, Balanced (Outlets.Tracked (relation .slow) (relation .other)
        (Normalizer.Normalizes (relation .fast))) (behind config sinks act incidents).router
      (behind config sinks act incidents).samples
      (behind config sinks act incidents).decisions ledger := by
  have start : Outlets.Tracked (relation .slow) (relation .other)
      (Normalizer.Normalizes (relation .fast))
      (.ofSinks (sinks .slow) (sinks .other) (sinks .fast)) fun _ => [] :=
    ⟨initially .slow, initially .other, Normalizer.normalizes_around (initially .fast)⟩
  have visit : ∀ outlet manner outlets handed,
      Outlets.Tracked (relation .slow) (relation .other) (Normalizer.Normalizes (relation .fast))
        outlets handed →
      Outlets.Tracked (relation .slow) (relation .other) (Normalizer.Normalizes (relation .fast))
        (outlets.setSink (act manner (outlets.sink outlet)) outlet) handed := by
    rintro outlet manner outlets handed ⟨slow, other, passed, fast, accounts⟩
    cases outlet with
    | slow => exact ⟨keeps _ _ _ _ slow, other, passed, fast, accounts⟩
    | other => exact ⟨slow, keeps _ _ _ _ other, passed, fast, accounts⟩
    | fast => exact ⟨slow, other, passed, keeps _ _ _ _ fast, accounts⟩
  obtain ⟨ledger, balanced, _⟩ := balanced_behind (motive := fun _ _ => True)
    (follows_behind tracks) config sinks act start visit incidents trivial
    (fun _ _ _ _ => trivial) (fun _ _ _ _ _ _ => trivial)
  exact ⟨ledger, balanced⟩

/-- What sinks track, and their visits keep, holds behind the outlets in every run. -/
theorem behind_tracked [Sink S] (relation : Outlet → S → List Word → Prop) (act : V → S → S)
    (sinks : Outlet → S) (tracks : ∀ outlet, Tracks (relation outlet))
    (initially : ∀ outlet, relation outlet (sinks outlet) [])
    (keeps : ∀ outlet manner sink words, relation outlet sink words →
      relation outlet (act manner sink) words)
    (config : Config) (incidents : List (Incident V)) (outlet : Outlet) :
    ∃ words,
      relation outlet ((behind config sinks act incidents).router.outlets.sink outlet) words := by
  obtain ⟨ledger, balanced⟩ :=
    balanced_tracked relation act sinks tracks initially keeps config incidents
  obtain ⟨slow, other, passed, fast, _⟩ := balanced.outlets
  cases outlet with
  | slow => exact ⟨_, slow⟩
  | other => exact ⟨_, other⟩
  | fast => exact ⟨passed, fast⟩

end Run

/-- What a consumer does to a queue. -/
inductive Queue.Taking where
  | pop
  | drain
deriving DecidableEq, Repr

/-- The queue behind what its consumer does. -/
def Queue.take (queue : Queue) : Queue.Taking → Queue
  | .pop => (queue.pop?.map Prod.snd).getD queue
  | .drain => queue.drain.2

namespace Queue.Within

variable {depth : Nat}

theorem take (taking : Taking) {queue : Queue} (within : Within depth queue) :
    Within depth (queue.take taking) := by
  cases taking with
  | pop =>
      cases waiting : queue.words.toList with
      | nil =>
          have same : queue.take .pop = queue := by simp [Queue.take, Queue.pop?, waiting]
          rw [same]
          exact within
      | cons word rest =>
          have taken : queue.take .pop = { queue with words := rest.toArray } := by
            simp [Queue.take, Queue.pop?, waiting]
          have fewer : rest.length ≤ queue.length := by
            unfold Queue.length
            rw [← Array.length_toList, waiting]
            exact Nat.le_succ _
          rw [taken]
          exact ⟨within.capacity, fewer.trans within.length⟩
  | drain => exact ⟨within.capacity, Nat.zero_le _⟩

end Queue.Within

/-- The record of a scripted sink is that of its observer. -/
def ScriptedSink.Recorded (observed : Observed ScriptedSink) : Prop :=
  observed.sink.now = observed.now ∧
    observed.sink.record.toList = observed.arrivals.map fun arrival => (arrival.tick, arrival.word)

theorem ScriptedSink.tracks_recorded :
    Tracks fun (observed : Observed ScriptedSink) (_ : List Word) => Recorded observed where
  push := by
    rintro observed words word ⟨now, record⟩ _
    refine ⟨now, ?_⟩
    change (observed.sink.record.push (observed.sink.now, word)).toList =
      (observed.arrivals ++ [_]).map _
    rw [Array.toList_push, List.map_append, record, now]
    rfl
  tick := by
    rintro observed words ⟨now, record⟩
    exact ⟨congrArg (· + 1) now, record⟩

/--
Over sinks of any kind, visited in any way, every word reaches its sink in
readiness, and observing them changes nothing.  Queues never hold more words
than they can, whatever their consumers take.  All that scripted sinks have on
record has reached them in readiness.
-/
theorem Run.handshake :
    (∀ (S V : Type) [Sink S] (config : Config) (sinks : Outlet → S) (act : V → S → S)
        (incidents : List (Incident V)),
      (observedBehind config sinks act incidents).map Observed.sink
          (Normalizer.map Observed.sink) = behind config sinks act incidents ∧
        (observedBehind config sinks act incidents).Heeded) ∧
      (∀ (config : Config) (depths : Outlet → Nat) (incidents : List (Incident Queue.Taking))
          (outlet : Outlet),
        Queue.Within (depths outlet) ((behind config (fun outlet => .ofDepth (depths outlet))
          (fun taking queue => queue.take taking) incidents).router.outlets.sink outlet)) ∧
      ∀ (config : Config) (schedules : Outlet → Schedule) (incidents : List (Incident Schedule))
          (outlet : Outlet),
        ScriptedSink.Recorded ((observedBehind config
          (fun outlet => .ofSchedule (schedules outlet))
          (fun schedule sink => sink.reschedule schedule) incidents).router.outlets.sink
            outlet) := by
  refine ⟨?_, ?_, ?_⟩
  · intro S V _ config sinks act incidents
    constructor
    · exact observedBehind_map config sinks act incidents
    · intro outlet
      obtain ⟨words, _, ready⟩ := behind_tracked (fun _ => Observed.Received)
        (fun manner => Observed.alter (act manner)) (fun outlet => .fresh (sinks outlet))
        (fun _ => Observed.tracks_received S) (fun outlet => Observed.received_fresh (sinks outlet))
        (fun _ _ _ _ received => received) config incidents outlet
      exact ready
  · intro config depths incidents outlet
    obtain ⟨_, within⟩ := behind_tracked
      (fun outlet queue _ => Queue.Within (depths outlet) queue)
      (fun taking queue => queue.take taking) (fun outlet => .ofDepth (depths outlet))
      (fun outlet => Queue.Within.tracks (depths outlet))
      (fun outlet => Queue.Within.ofDepth (depths outlet))
      (fun _ taking _ _ within => within.take taking) config incidents outlet
    exact within
  · intro config schedules incidents outlet
    obtain ⟨_, recorded⟩ := behind_tracked (fun _ observed _ => ScriptedSink.Recorded observed)
      (fun schedule => Observed.alter fun sink => sink.reschedule schedule)
      (fun outlet => .fresh (.ofSchedule (schedules outlet)))
      (fun _ => ScriptedSink.tracks_recorded) (fun _ => ⟨rfl, rfl⟩)
      (fun _ _ _ _ recorded => recorded) config incidents outlet
    exact recorded

end FrameRouter
