import FrameRouter.Proofs.Engine.Conservation

/-!
# Joint deliveries

A frame for the slow path and the peer goes to both word by word.  In every
tick in which such a frame is leaving, either both get the same word or neither
gets one, and what they have of these frames is the same at any time.
-/

namespace FrameRouter

/-- A word that has left a router, and the tick in which it left. -/
structure Exit where
  tick : Nat
  route : Route
  word : Word
deriving DecidableEq, Repr

/-- What a sink observes of a word that has left. -/
def Exit.arrival (exit : Exit) : Arrival := ⟨exit.tick, exit.word, true⟩

/-- A share of a delivery is observed in readiness. -/
theorem Observed.arrivals_share {S : Type} [Sink S] {observed : Observed S} {reached : Bool}
    (ready : (!reached || Sink.ready observed) = true) (word : Word) :
    (if reached then Sink.push observed word else observed).arrivals =
      observed.arrivals ++ if reached then [⟨observed.now, word, true⟩] else [] := by
  cases reached with
  | false => exact (List.append_nil _).symm
  | true =>
      have isReady : Sink.ready observed = true := ready
      exact congrArg (fun ready => observed.arrivals ++ [⟨observed.now, word, ready⟩]) isReady

namespace Outlets

variable {S F : Type}

/-- The ticks that the sink behind an outlet has passed. -/
def now (outlets : Outlets (Observed S) (Observed F)) : Outlet → Nat
  | .slow => outlets.slow.now
  | .other => outlets.other.now
  | .fast => outlets.fast.now

/-- Everything that was handed to the sink behind an outlet. -/
def arrivals (outlets : Outlets (Observed S) (Observed F)) : Outlet → List Arrival
  | .slow => outlets.slow.arrivals
  | .other => outlets.other.arrivals
  | .fast => outlets.fast.arrivals

variable [Sink S] [Sink F]

theorem now_deliver (outlets : Outlets (Observed S) (Observed F)) (word : Word) (route : Route)
    (outlet : Outlet) : (outlets.deliver word route).now outlet = outlets.now outlet := by
  cases route <;> cases outlet <;> rfl

/-- A delivery in readiness arrives at the outlets of its route. -/
theorem arrivals_deliver {outlets : Outlets (Observed S) (Observed F)} {route : Route}
    (accepted : outlets.accepts route = true) (word : Word) (outlet : Outlet) :
    (outlets.deliver word route).arrivals outlet =
      outlets.arrivals outlet ++
        if route.reaches outlet then [⟨outlets.now outlet, word, true⟩] else [] := by
  rw [accepts_eq, Bool.and_eq_true, Bool.and_eq_true] at accepted
  obtain ⟨⟨slow, other⟩, fast⟩ := accepted
  cases outlet with
  | slow =>
      rw [arrivals, deliver_slow]
      exact Observed.arrivals_share slow word
  | other =>
      rw [arrivals, deliver_other]
      exact Observed.arrivals_share other word
  | fast =>
      rw [arrivals, deliver_fast]
      exact Observed.arrivals_share fast word

end Outlets

namespace Router

variable {S F : Type} [Sink S] [Sink F]

/-- While no word of a decided frame leaves, the ring stays as it is and no word is accepted. -/
theorem Turn.holds {router after : Router S F} {input : Option Word} {accepted : Bool}
    (turn : Turn router input after accepted) {route : Route}
    (forwarding : router.phase = .forwarding route) (stays : router.exit? input = none) :
    after.ring = router.ring ∧ accepted = false := by
  cases turn with
  | rest => exact ⟨rfl, rfl⟩
  | begin word idle => cases idle.symm.trans forwarding
  | capture word capturing => cases capturing.symm.trans forwarding
  | decide input deciding => cases deciding.symm.trans forwarding
  | stall => exact ⟨rfl, rfl⟩
  | replay input leaving word same front accepts =>
      have left := exit?_of_candidate same (candidate?_of_front input front) accepts
      cases left.symm.trans stays
  | finish leaving word same front accepts =>
      have left := exit?_of_candidate same (candidate?_of_front none front) accepts
      cases left.symm.trans stays
  | exchange leaving word next same front accepts =>
      have left := exit?_of_candidate same (candidate?_of_front (some next) front) accepts
      cases left.symm.trans stays
  | pass leaving word same empty accepts =>
      have left := exit?_of_candidate same (candidate?_of_empty (some word) empty) accepts
      cases left.symm.trans stays

variable (router : Router (Observed S) (Observed F)) (input : Option Word) (outlet : Outlet)

theorem now_tick : (router.tick input).1.outlets.now outlet = router.outlets.now outlet + 1 := by
  rw [(router.tick_turn input).outlets_eq, released]
  split
  · rw [Outlets.now_deliver]
    cases outlet <;> rfl
  · cases outlet <;> rfl

/-- In a tick only the word that leaves arrives, at the outlets of its route. -/
theorem arrivals_tick :
    (router.tick input).1.outlets.arrivals outlet =
      router.outlets.arrivals outlet ++
        ((router.advanced.exit? input).toList.filter fun exit => exit.1.reaches outlet).map
          fun exit => ⟨router.outlets.now outlet + 1, exit.2, true⟩ := by
  have advanced : router.advanced.outlets.arrivals outlet = router.outlets.arrivals outlet := by
    cases outlet <;> rfl
  have now : router.advanced.outlets.now outlet = router.outlets.now outlet + 1 := by
    cases outlet <;> rfl
  rw [(router.tick_turn input).outlets_eq, released, ← advanced, ← now]
  cases exit : router.advanced.exit? input with
  | none => simp
  | some left =>
      obtain ⟨route, word⟩ := left
      obtain ⟨_, accepted, _⟩ := of_exit? exit
      rw [Outlets.arrivals_deliver accepted]
      cases reached : route.reaches outlet <;> simp [reached]

end Router

/--
In a tick in which a frame for slow path and peer is leaving, a waiting word
reaches both exactly if both are ready.  Otherwise neither gets a word, and the
waiting one stays in the ring or is refused.
-/
structure Beat.Joint {S F : Type} [Sink S] [Sink F] (beat : Beat (Observed S) (Observed F))
    (tick : Nat) : Prop where
  moves : ∀ word, beat.router.candidate? beat.input = some word →
    Sink.ready (Sink.tick beat.router.outlets.slow) = true →
    Sink.ready (Sink.tick beat.router.outlets.other) = true →
    (beat.router.tick beat.input).1.outlets.slow.arrivals =
        beat.router.outlets.slow.arrivals ++ [⟨tick, word, true⟩] ∧
      (beat.router.tick beat.input).1.outlets.other.arrivals =
        beat.router.outlets.other.arrivals ++ [⟨tick, word, true⟩]
  holds : beat.router.candidate? beat.input = none ∨
      Sink.ready (Sink.tick beat.router.outlets.slow) = false ∨
      Sink.ready (Sink.tick beat.router.outlets.other) = false →
    (beat.router.tick beat.input).1.outlets.slow.arrivals = beat.router.outlets.slow.arrivals ∧
      (beat.router.tick beat.input).1.outlets.other.arrivals =
        beat.router.outlets.other.arrivals ∧
      (beat.router.tick beat.input).1.ring = beat.router.ring ∧
      (beat.router.tick beat.input).2 = false

/-- Every tick with such a frame is joint if the clocks of both sinks agree. -/
theorem Beat.joint_of_now {S F : Type} [Sink S] [Sink F] {beat : Beat (Observed S) (Observed F)}
    {index : Nat} (now : ∀ outlet, beat.router.outlets.now outlet = index)
    (both : beat.router.phase = .forwarding .both) : beat.Joint (index + 1) := by
  have phase : beat.router.advanced.phase = .forwarding .both := both
  have arrivals := beat.router.arrivals_tick beat.input
  constructor
  · intro word waiting slowReady otherReady
    have accepted : beat.router.advanced.outlets.accepts .both = true :=
      Bool.and_eq_true_iff.mpr ⟨slowReady, otherReady⟩
    rw [Router.exit?_of_candidate phase waiting accepted] at arrivals
    constructor
    · exact (arrivals .slow).trans (by rw [now]; rfl)
    · exact (arrivals .other).trans (by rw [now]; rfl)
  · intro held
    have stays : beat.router.advanced.exit? beat.input = none := by
      cases exit : beat.router.advanced.exit? beat.input with
      | none => rfl
      | some left =>
          obtain ⟨same, accepted, waiting⟩ := Router.of_exit? exit
          rw [← Phase.forwarding.inj (phase.symm.trans same)] at accepted
          obtain ⟨slowReady, otherReady⟩ := Bool.and_eq_true_iff.mp accepted
          rcases held with nothing | slowFull | otherFull
          · cases nothing.symm.trans waiting
          · exact absurd (slowFull.symm.trans slowReady) (by decide)
          · exact absurd (otherFull.symm.trans otherReady) (by decide)
    rw [stays] at arrivals
    obtain ⟨ring, refused⟩ := (beat.router.tick_turn beat.input).holds phase stays
    exact ⟨(arrivals .slow).trans (List.append_nil _),
      (arrivals .other).trans (List.append_nil _), ring, refused⟩

namespace Run

variable {S F : Type}

/-- The route of the frame that is leaving in a tick, counted from one. -/
def routeIn (run : Run S F) (tick : Nat) : Option Route :=
  run.beats[tick - 1]?.bind fun beat => beat.router.phase.route?

/-- What has arrived at an outlet of frames for slow path and peer. -/
def joint (run : Run (Observed S) (Observed F)) (outlet : Outlet) : List Arrival :=
  (run.router.outlets.arrivals outlet).filter fun arrival =>
    run.routeIn arrival.tick = some .both

variable [Sink S] [Sink F]

/-- Slow path and peer get the words of their common frames together. -/
structure Paired (run : Run (Observed S) (Observed F)) : Prop where
  ticks : ∀ (index : Nat) (beat : Beat (Observed S) (Observed F)),
    run.beats[index]? = some beat → beat.router.phase = .forwarding .both → beat.Joint (index + 1)
  together : run.joint .slow = run.joint .other
  /-- Both have these frames as far as they have left. -/
  frames : (run.joint .slow).map Arrival.word =
    (run.finished.zip run.routes).flatMap
        (fun (frame, route) => if route = .both then frame else []) ++
      if run.router.phase = .forwarding .both then run.departed else []

/-- The words that have left, oldest first, each with its tick; ticks are counted from one. -/
def timetable (run : Run S F) : List Exit :=
  (run.beats.zipIdx 1).filterMap fun (beat, tick) =>
    beat.exit?.map fun (route, word) => ⟨tick, route, word⟩

theorem timetable_tick (run : Run S F) (input : Option Word) :
    (run.act (.tick input)).timetable =
      run.timetable ++ (Beat.mk run.router input).exit?.toList.map
        fun (route, word) => ⟨run.beats.length + 1, route, word⟩ := by
  unfold timetable act
  rw [List.zipIdx_append, List.filterMap_append, Nat.add_comm 1]
  cases left : (Beat.mk run.router input).exit? <;> simp [left]

/-- The entries of the timetable are the words that have left. -/
theorem map_timetable (run : Run S F) :
    run.timetable.map (fun exit => (exit.route, exit.word)) = run.exits := by
  have same : run.exits =
      (run.beats.zipIdx 1).filterMap fun (beat, _) => beat.exit? := by
    conv_lhs => rw [exits, ← List.zipIdx_map_fst 1 run.beats, List.filterMap_map]
    rfl
  rw [same, timetable, List.map_filterMap]
  simp only [Option.map_map, Function.comp_def, Prod.mk.eta, Option.map_id']

/-- Every entry of the timetable left by the route of the frame of its tick. -/
theorem routeIn_of_mem {run : Run S F} {exit : Exit} (membership : exit ∈ run.timetable) :
    run.routeIn exit.tick = some exit.route := by
  obtain ⟨⟨beat, tick⟩, listed, left⟩ := List.mem_filterMap.mp membership
  obtain ⟨⟨route, word⟩, found, rfl⟩ := Option.map_eq_some_iff.mp left
  obtain ⟨phase, _, _⟩ := Router.of_exit? found
  obtain ⟨_, there⟩ := List.mem_zipIdx_iff_le_and_getElem?_sub.mp listed
  have same : beat.router.phase = .forwarding route := phase
  simp only at there
  simp [routeIn, there, same, Phase.route?]

/-- The clocks count the ticks, and what has arrived follows the timetable. -/
structure Clocked (run : Run (Observed S) (Observed F)) : Prop where
  now : ∀ outlet, run.router.outlets.now outlet = run.beats.length
  before : ∀ (index : Nat) (beat : Beat (Observed S) (Observed F)),
    run.beats[index]? = some beat → ∀ outlet, beat.router.outlets.now outlet = index
  arrivals : ∀ outlet, run.router.outlets.arrivals outlet =
    (run.timetable.filter fun exit => exit.route.reaches outlet).map Exit.arrival

/-- What sinks do by themselves concerns neither their clocks nor their records. -/
theorem Clocked.transfer {run other : Run (Observed S) (Observed F)} (clocked : run.Clocked)
    (beats : other.beats = run.beats)
    (now : ∀ outlet, other.router.outlets.now outlet = run.router.outlets.now outlet)
    (arrivals : ∀ outlet,
      other.router.outlets.arrivals outlet = run.router.outlets.arrivals outlet) :
    other.Clocked := by
  have timetable : other.timetable = run.timetable := by rw [Run.timetable, beats, Run.timetable]
  refine ⟨?_, ?_, ?_⟩
  · intro outlet
    rw [now, beats, clocked.now]
  · rw [beats]
    exact clocked.before
  · intro outlet
    rw [arrivals, timetable, clocked.arrivals]

theorem Clocked.tick {run : Run (Observed S) (Observed F)} (clocked : run.Clocked)
    (input : Option Word) : (run.act (.tick input)).Clocked := by
  refine ⟨?_, ?_, ?_⟩
  · intro outlet
    exact (run.router.now_tick input outlet).trans (by simp [act, clocked.now])
  · intro index beat found outlet
    rcases Nat.lt_or_ge index run.beats.length with earlier | late
    · rw [act, List.getElem?_append_left earlier] at found
      exact clocked.before index beat found outlet
    · rw [act, List.getElem?_append_right late] at found
      obtain ⟨here, same⟩ := List.getElem?_eq_some_iff.mp found
      rw [List.length_singleton] at here
      have beatHere : beat = ⟨run.router, input⟩ := by simpa using same.symm
      rw [beatHere, clocked.now]
      omega
  · intro outlet
    refine (run.router.arrivals_tick input outlet).trans ?_
    rw [timetable_tick, List.filter_append, List.map_append, clocked.arrivals, clocked.now]
    cases left : (Beat.mk run.router input).exit? with
    | none =>
        have stays : run.router.advanced.exit? input = none := left
        simp [stays]
    | some exit =>
        have leaves : run.router.advanced.exit? input = some exit := left
        cases reached : exit.1.reaches outlet <;> simp [leaves, reached, Exit.arrival]

theorem clocked_observed (config : Config) (outlets : Outlets S F)
    (actions : List (Action S F)) : (Run.observed config outlets actions).Clocked := by
  refine Run.play_induction (motive := Clocked) _ _ ?_ ?_
  · refine ⟨?_, ?_, ?_⟩
    · intro outlet
      cases outlet <;> rfl
    · intro index beat found
      cases found
    · intro outlet
      cases outlet <;> rfl
  · intro run action membership clocked
    obtain ⟨original, _, rfl⟩ := List.mem_map.mp membership
    cases original with
    | tick input => exact clocked.tick input
    | write address value =>
        obtain ⟨config, written⟩ := run.act_write address value
        rw [Action.observed, written]
        exact clocked.transfer rfl (fun _ => rfl) (fun _ => rfl)
    | replace config => exact clocked.transfer rfl (fun _ => rfl) (fun _ => rfl)
    | slow change =>
        refine clocked.transfer rfl ?_ ?_ <;>
          · intro outlet
            cases outlet <;> rfl
    | other change =>
        refine clocked.transfer rfl ?_ ?_ <;>
          · intro outlet
            cases outlet <;> rfl
    | fast change =>
        refine clocked.transfer rfl ?_ ?_ <;>
          · intro outlet
            cases outlet <;> rfl

/-- What has arrived of the common frames is what has left of them. -/
theorem Clocked.joint_eq {run : Run (Observed S) (Observed F)} (clocked : run.Clocked)
    {outlet : Outlet} (reached : Route.both.reaches outlet = true) :
    run.joint outlet =
      (run.timetable.filter fun exit => exit.route = .both).map Exit.arrival := by
  rw [joint, clocked.arrivals, List.filter_map, List.filter_filter]
  refine congrArg _ (List.filter_congr ?_)
  intro exit membership
  have route : run.routeIn exit.arrival.tick = some exit.route := routeIn_of_mem membership
  simp only [Function.comp_apply, route, Option.some.injEq]
  by_cases both : exit.route = .both
  · simp [both, reached]
  · simp [both]

end Run

/-- The words that left for slow path and peer together. -/
def Route.common (exits : List (Route × Word)) : List Word :=
  (exits.filter fun exit => exit.1 = .both).map Prod.snd

namespace Ledger

theorem common_map (route : Route) (words : List Word) :
    Route.common (words.map (Prod.mk route)) = if route = .both then words else [] := by
  unfold Route.common
  rw [List.filter_map, List.map_map]
  by_cases both : route = .both <;> simp [both, Function.comp_def]

/-- The words that left together are those of the common frames. -/
theorem common_exits (ledger : Ledger) :
    Route.common ledger.exits =
      (ledger.passages.map fun passage => (passage.words, passage.decision.route)).flatMap
          (fun (frame, route) => if route = .both then frame else []) ++
        if ledger.decision.map Decision.route = some .both then ledger.moved else [] := by
  have passages : Route.common (ledger.passages.flatMap Passage.exits) =
      ledger.passages.flatMap fun passage =>
        if passage.decision.route = .both then passage.words else [] := by
    simp only [← common_map]
    simp only [Route.common, Passage.exits, List.filter_flatMap, List.map_flatMap]
  rw [List.flatMap_map, ← passages, exits, Route.common, List.filter_append, List.map_append]
  refine congrArg (_ ++ ·) ?_
  cases ledger.decision with
  | none => rfl
  | some decision =>
      refine (common_map decision.route ledger.moved).trans ?_
      simp

end Ledger

/-- An observed run whose ledger balances delivers common frames jointly. -/
theorem Balanced.paired {S F : Type} [Sink S] [Sink F] {run : Run (Observed S) (Observed F)}
    {ledger : Ledger}
    (balanced : Balanced Outlets.Recorded run.router run.samples run.decisions ledger)
    (listed : ledger.exits = run.exits) (clocked : run.Clocked) : run.Paired := by
  refine ⟨?_, ?_, ?_⟩
  · intro index beat found both
    exact Beat.joint_of_now (clocked.before index beat found) both
  · rw [clocked.joint_eq rfl, clocked.joint_eq rfl]
  · have together : (run.joint .slow).map Arrival.word = Route.common run.exits := by
      rw [clocked.joint_eq rfl, Route.common, ← run.map_timetable, List.filter_map, List.map_map,
        List.map_map]
      rfl
    have leaving : run.router.phase = .forwarding .both ↔
        ledger.decision.map Decision.route = some .both := by
      rw [← balanced.flight.route?_eq]
      cases run.router.phase <;> simp [Phase.route?]
    rw [together, ← listed, ledger.common_exits, balanced.finished_routes, balanced.departed]
    simp only [leaving]

/--
In every run over sinks of any kind, whatever happens to them, slow path and
peer get the words of their common frames together.  Observing the sinks has
not changed the run.
-/
theorem Run.joint_delivery {S : Type} [Sink S] (config : Config) (outlets : Outlets S)
    (actions : List (Action S (Normalizer S))) :
    (Run.observed config outlets actions).map Observed.sink Observed.sink =
        Run.play (.ofOutlets config outlets) actions ∧
      (Run.observed config outlets actions).Paired := by
  refine ⟨Run.observed_map config outlets actions, ?_⟩
  obtain ⟨ledger, balanced, listed⟩ := Run.balanced_observed config outlets actions
  exact balanced.paired listed (Run.clocked_observed config outlets actions)

end FrameRouter
