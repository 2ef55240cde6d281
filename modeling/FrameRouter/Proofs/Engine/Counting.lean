import FrameRouter.Proofs.Engine.FastPath
import FrameRouter.Proofs.Engine.Quiescence
import FrameRouter.Proofs.Sink.Trimming

/-!
# Counting

The counters of a router are an account of its run: of the ticks that accepted
a word or had to wait for an outlet, and of the frames that were given a route,
by their routes and lengths.
-/

namespace FrameRouter

open Cutting Normalization

namespace Statistics

/-- The counter of an event. -/
def tally (s : Statistics) : Event → Nat
  | .word => s.wordsIn
  | .short => s.shortFrames
  | .truncation => s.truncations
  | .extension => s.extensions
  | .stall => s.stallTicks
  | .routed route => s.routed route

/-- An event moves its own counter by one and no other. -/
theorem tally_count (s : Statistics) (counted event : Event) :
    (s.count counted).tally event = s.tally event + if counted = event then 1 else 0 := by
  cases counted with
  | routed route =>
      cases event with
      | routed taken => cases route <;> cases taken <;> rfl
      | _ => cases route <;> rfl
  | _ => cases event <;> rfl

theorem tally_foldl (s : Statistics) (events : List Event) (event : Event) :
    (events.foldl count s).tally event = s.tally event + events.count event := by
  induction events generalizing s with
  | nil => rfl
  | cons counted events ih =>
      rw [List.foldl_cons, ih, tally_count, List.count_cons, Nat.add_assoc,
        Nat.add_comm (ite _ _ _)]
      simp only [beq_iff_eq]

end Statistics

namespace Router

variable {S F : Type}

/-- What is counted when a frame is given its route. -/
def verdict (router : Router S F) : List Event :=
  (if router.capturedLast && router.classification.isShort then [.short] else []) ++
    [.routed router.decision.route]

variable [Sink S] [Sink F]

/-- What is counted in a turn. -/
def events (router : Router S F) (input : Option Word) (accepted : Bool) : List Event :=
  (if accepted then [.word] else []) ++ (if router.stalls input then [.stall] else []) ++
    if router.phase = .deciding then router.verdict else []

/-- A router counts the events of its turns. -/
theorem Turn.counters_eq {router after : Router S F} {input : Option Word} {accepted : Bool}
    (turn : Turn router input after accepted) :
    after.counters = (router.events input accepted).foldl Statistics.count router.counters := by
  cases turn with
  | rest undecided nothing =>
      have still : router.stalls none = false := by
        unfold stalls
        split
        · rename_i route forwarding
          simp [candidate?, nothing route forwarding]
        · rfl
      simp [events, still, undecided]
  | begin word idle => simp [events, stalls, idle, Router.capture, cleared]
  | capture word capturing => simp [events, stalls, capturing, Router.capture]
  | decide input deciding =>
      have still : router.stalls input = false := by simp [stalls, deciding]
      simp only [events, still, deciding, if_true, verdict]
      unfold Router.decide
      split <;> rfl
  | stall input route word forwarding waiting refused =>
      simp [events, stalls, forwarding, waiting, refused, count]
  | replay input route word forwarding front accepts =>
      simp [events, stalls, forwarding, accepts, replayed]
  | finish route word forwarding front accepts =>
      simp [events, stalls, forwarding, accepts, replayed, rested]
  | exchange route word next forwarding front accepts =>
      simp [events, stalls, forwarding, accepts, replayed, rested, cleared, Router.capture]
  | pass route word forwarding empty accepts =>
      simp [events, stalls, forwarding, accepts, passed]

/-- Words and stalls are counted in any phase, routes and short frames with the decision. -/
theorem count_events (router : Router S F) (input : Option Word) (accepted : Bool) :
    (router.events input accepted).count .word = (if accepted then 1 else 0) ∧
      (router.events input accepted).count .stall = (if router.stalls input then 1 else 0) ∧
      (router.events input accepted).count .short =
        (if router.phase = .deciding ∧
          (router.capturedLast && router.classification.isShort) = true then 1 else 0) ∧
      ∀ route, (router.events input accepted).count (.routed route) =
        if router.phase = .deciding ∧ router.decision.route = route then 1 else 0 := by
  unfold events verdict
  cases accepted <;> cases router.stalls input <;>
    by_cases deciding : router.phase = .deciding <;>
    cases router.capturedLast && router.classification.isShort <;>
    simp [deciding, List.count_cons]

end Router

namespace Ledger

/-- The frames that were given a route, each with it. -/
def judged (ledger : Ledger) : List (List Word × Route) :=
  ledger.passages.map (fun passage => (passage.words, passage.decision.route)) ++
    ledger.decision.toList.map fun made => (ledger.current.map Sample.word, made.route)

variable {ledger : Ledger} {made : Decision} {word : Word}

/-- A frame has been given its route before it leaves. -/
theorem judged_leave (leaves : ledger.Leaves made word) :
    (ledger.leave made word).judged = ledger.judged := by
  unfold leave
  split
  · simp [judged, close, move, leaves.decided, Passage.words]
  · rfl

/-- A further word of an undecided frame concerns none that was given a route. -/
theorem judged_accept (undecided : ledger.decision = none) (sample : Sample) :
    (ledger.accept sample).judged = ledger.judged := by
  simp [judged, accept, undecided]

/-- A property of frames that no word behind the header changes. -/
def Steady (property : List Word × Route → Bool) : Prop :=
  ∀ words word route, Header.windowWords ≤ words.length →
    property (words ++ [word], route) = property (words, route)

/-- A turn gives a route to the frame in flight if it decides, and to no other. -/
theorem Entry.countP_judged {S F : Type} [Sink S] [Sink F] {router : Router S F}
    {input : Option Word} {next : Ledger} {property : List Word × Route → Bool}
    (steady : Steady property)
    (entry : ledger.Entry router input (router.exit? input) next) :
    next.judged.countP property = ledger.judged.countP property +
      if router.phase = .deciding ∧
        property (ledger.current.map Sample.word, router.decision.route) = true then 1 else 0 := by
  generalize left : router.exit? input = exit at entry
  have leaving {route : Route} {word : Word} (some : exit = Option.some (route, word)) :
      router.phase ≠ .deciding := by
    rw [some] at left
    rw [(Router.of_exit? left).1]
    simp
  cases entry with
  | blocked nothing =>
      have undeciding : router.phase ≠ .deciding := by
        cases nothing with
        | rest undecided => exact undecided
        | stall _ route forwarding => simp [forwarding]
      simp [undeciding]
  | capture sample undeciding undecided => simp [judged_accept undecided, undeciding]
  | decide deciding undecided =>
      simp [judged, Ledger.decide, deciding, undecided, List.countP_cons]
  | leave made word leaves => simp [judged_leave leaves, leaving rfl]
  | exchange made word sample leaves ended =>
      have undecided : (ledger.leave made word).decision = none := by
        simp [Ledger.leave, ended, Ledger.close]
      simp [judged_accept undecided, judged_leave leaves, leaving rfl]
  | pass made sample filled leaves =>
      have decided : ledger.decision = some made := leaves.decided
      have same := steady (ledger.current.map Sample.word) sample.word made.route
        (by simpa using filled)
      rw [judged_leave leaves]
      simp [leaving rfl, judged, Ledger.accept, decided, List.countP_cons, same]

end Ledger

namespace Beat

variable {S F : Type} [Sink S] [Sink F]

/-- The offered word is accepted in the tick. -/
def accepts (beat : Beat S F) : Bool := (beat.router.tick beat.input).2

/-- A word of a decided frame waits in the tick for an outlet that is not ready. -/
def stalls (beat : Beat S F) : Bool := beat.router.advanced.stalls beat.input

/-- Only an offered word is accepted. -/
theorem isSome_sample? (beat : Beat S F) : beat.sample?.isSome = beat.accepts := by
  have turn := beat.router.tick_turn beat.input
  unfold sample? Router.sampled? accepts
  generalize beat.input = offered at turn ⊢
  generalize beat.router.tick offered = ticked at turn ⊢
  obtain ⟨after, accepted⟩ := ticked
  cases turn <;> rfl

end Beat

namespace Run

variable {S F : Type} [Sink S] [Sink F]

/-- The frames that were given a route, each with it; the last one may still be in flight. -/
def judged (run : Run S F) : List (List Word × Route) := run.frames.zip run.routes

theorem length_samples (run : Run S F) : run.samples.length = run.beats.countP Beat.accepts := by
  unfold samples
  rw [List.length_filterMap_eq_countP]
  simp only [Beat.isSome_sample?]

/-- The router has counted its ticks and the frames of the ledger. -/
structure Counted (run : Run S F) (ledger : Ledger) : Prop where
  wordsIn : run.router.counters.wordsIn = run.beats.countP Beat.accepts
  stallTicks : run.router.counters.stallTicks = run.beats.countP Beat.stalls
  shortFrames : run.router.counters.shortFrames =
    ledger.judged.countP fun (frame, _) => frame.length < Header.windowWords
  routed : ∀ route, run.router.counters.routed route =
    ledger.judged.countP fun (_, taken) => taken = route

/-- Only the ticks and the counters have a part in the account. -/
theorem Counted.transfer {run other : Run S F} {ledger : Ledger} (beats : other.beats = run.beats)
    (counters : other.router.counters = run.router.counters) (counted : run.Counted ledger) :
    other.Counted ledger := by
  obtain ⟨wordsIn, stallTicks, shortFrames, routed⟩ := counted
  rw [← counters] at wordsIn stallTicks shortFrames routed
  rw [← beats] at wordsIn stallTicks
  exact ⟨wordsIn, stallTicks, shortFrames, routed⟩

/-- A tick keeps the account. -/
theorem Counted.tick {relation : Outlets S F → (Outlet → List Word) → Prop} {run : Run S F}
    {ledger next : Ledger} {input : Option Word}
    (balanced : Balanced relation run.router run.samples run.decisions ledger)
    (entry : ledger.Entry run.router.advanced input (run.router.advanced.exit? input) next)
    (counted : run.Counted ledger) : (run.act (.tick input)).Counted next := by
  have turn := (run.router.tick_turn input).counters_eq
  have tally (event : Event) : (run.router.tick input).1.counters.tally event =
      run.router.counters.tally event +
        (run.router.advanced.events input (run.router.tick input).2).count event := by
    rw [turn]
    exact Statistics.tally_foldl _ _ event
  obtain ⟨words, stalls, shorts, routes⟩ :=
    run.router.advanced.count_events input (run.router.tick input).2
  -- The header of a deciding router is complete, so it is short if the frame is.
  have short : run.router.advanced.phase = .deciding →
      ((run.router.advanced.capturedLast && run.router.advanced.classification.isShort) = true ↔
        (ledger.current.map Sample.word).length < Header.windowWords) := by
    intro deciding
    obtain ⟨captured, complete, _⟩ := balanced.flight.of_deciding deciding
    have seen : run.router.classification.wordsSeen =
        min ledger.current.length Header.windowWords := by
      rw [captured.classification, Classification.ofSamples_eq_read]
      rfl
    change (run.router.capturedLast && run.router.classification.isShort) = true ↔ _
    rw [Classification.isShort, seen, List.length_map]
    cases complete with
    | ended last whole within => simp [last]
    | full unended isOpen filled => simp [unended, filled]
  constructor
  · refine (tally .word).trans ?_
    rw [words, act, List.countP_append, ← counted.wordsIn, List.countP_singleton]
    rfl
  · refine (tally .stall).trans ?_
    rw [stalls, act, List.countP_append, ← counted.stallTicks, List.countP_singleton]
    rfl
  · refine (tally .short).trans ?_
    have steady : Ledger.Steady fun (frame, _) => frame.length < Header.windowWords := by
      intro words word route filled
      rw [decide_eq_decide, List.length_append]
      omega
    rw [shorts, entry.countP_judged steady, ← counted.shortFrames]
    by_cases deciding : run.router.advanced.phase = .deciding
    · simp only [short deciding, decide_eq_true_iff]
      rfl
    · simp [deciding, Statistics.tally]
  · intro route
    refine (tally (.routed route)).trans ?_
    have steady : Ledger.Steady fun (_, taken) => taken = route := fun _ _ _ _ => rfl
    rw [routes, entry.countP_judged steady, ← counted.routed]
    simp [Statistics.tally]

end Run

namespace Statistics

/-- Routes counted one by one are counted together. -/
theorem frames_of_routed (s : Statistics) (routes : List Route)
    (routed : ∀ route, s.routed route = routes.count route) : s.frames = routes.length := by
  have split : s.frames = routes.count .slow + routes.count .other + routes.count .both +
      routes.count .fast + routes.count .drop := by
    simp only [← routed]
    rfl
  rw [split]
  clear split routed
  induction routes with
  | nil => rfl
  | cons route routes ih =>
      cases route <;> simp [← ih] <;> omega

end Statistics

/-- What is counted of the frames that reach the fast outlet is counted of the fast route. -/
theorem Route.countP_fast {sent : List (List Word × Route)}
    (network : ∀ pair ∈ sent, pair.2 = .fast → IsNetwork pair.1)
    {trimmed property : List Word → Prop} [DecidablePred trimmed] [DecidablePred property]
    (same : ∀ frame, trimmed frame ↔ IsNetwork frame ∧ property frame) :
    ((sent.filter fun pair => pair.2.reaches .fast).map Prod.fst).countP
        (fun frame => trimmed frame) =
      sent.countP fun (frame, route) => route = .fast ∧ property frame := by
  have reaches (route : Route) : route.reaches .fast = true ↔ route = .fast := by
    cases route <;> decide
  rw [List.countP_map, List.countP_filter]
  refine List.countP_congr ?_
  rintro ⟨frame, route⟩ membership
  simp only [Function.comp_apply, Bool.and_eq_true, decide_eq_true_iff, reaches, same]
  constructor
  · rintro ⟨⟨_, holds⟩, fast⟩
    exact ⟨fast, holds⟩
  · rintro ⟨fast, holds⟩
    exact ⟨⟨network _ membership fast, holds⟩, fast⟩

/-- A frame on the fast path is a network packet. -/
theorem Passage.Sound.network {passage : Passage} (sound : passage.Sound)
    (fast : passage.decision.route = .fast) : IsNetwork passage.words := by
  rw [sound.decided, Route.decide_ofSamples] at fast
  exact (Route.service_of_reference fast).network_words.1

namespace Balanced

section

variable {S F : Type} [Sink S] [Sink F]
  {relation : Outlets S F → (Outlet → List Word) → Prop} {run : Run S F} {ledger : Ledger}

/-- The frames that were given a route are those of the ledger. -/
theorem judged (balanced : Balanced relation run.router run.samples run.decisions ledger) :
    run.judged = ledger.judged := by
  rw [Run.judged, balanced.frames, balanced.routes, List.zip_append (by simp), List.zip_map',
    Ledger.judged, balanced.flight.route?_eq]
  refine congrArg (_ ++ ·) ?_
  cases made : ledger.decision with
  | none => simp
  | some decision =>
      have busy : run.router.phase ≠ .idle := by
        intro idle
        rw [(balanced.flight.of_idle idle).2.1] at made
        cases made
      simp [busy]

/-- Every route was given to one of the frames. -/
theorem judged_routes
    (balanced : Balanced relation run.router run.samples run.decisions ledger) :
    run.judged.map Prod.snd = run.routes := by
  rw [balanced.judged, balanced.routes, balanced.flight.route?_eq, Ledger.judged]
  simp [Function.comp_def, Option.toList_map]

/-- The router has counted every route that it gave. -/
theorem counted_routes
    (balanced : Balanced relation run.router run.samples run.decisions ledger)
    (counted : run.Counted ledger) (route : Route) :
    run.router.counters.routed route = run.routes.count route := by
  rw [counted.routed, ← balanced.judged, ← balanced.judged_routes, List.count, List.countP_map]
  rfl

/-- Beside the frames that have left, only the one that leaves has a route. -/
theorem length_routes
    (balanced : Balanced relation run.router run.samples run.decisions ledger) :
    run.routes.length =
      run.finished.length + if run.router.phase.route?.isSome then 1 else 0 := by
  rw [balanced.routes, balanced.cut.1]
  cases run.router.phase.route? <;> simp

end

variable {S : Type} [Sink S] {run : Run S (Normalizer S)} {ledger : Ledger}

/-- What an idle normalizer has counted are frames on the fast path that have left. -/
theorem tallies_of_idle
    (balanced : Balanced (Outlets.Tracked (fun _ _ => True) (fun _ _ => True) Normalizer.Tallied)
      run.router run.samples run.decisions ledger)
    (idle : run.router.isIdle = true) :
    run.router.outlets.fast.truncations =
        (run.finished.zip run.routes).countP (fun (frame, route) =>
          route = .fast ∧ max (extent frame).words 5 < frame.length) ∧
      run.router.outlets.fast.extensions =
        (run.finished.zip run.routes).countP fun (frame, route) =>
          route = .fast ∧ frame.length < (extent frame).words := by
  obtain ⟨atRest, outletsIdle⟩ := Bool.and_eq_true_iff.mp idle
  have phase : run.router.phase = .idle := beq_iff_eq.mp atRest
  have settled := Normalizer.owed_of_isIdle (Bool.and_eq_true_iff.mp outletsIdle).2
  obtain ⟨_, _, ⟨passed, _, accounts⟩, truncations, extensions⟩ := balanced.outlets
  have finished : run.finished = run.frames := if_pos phase
  have sent := balanced.finished_routes
  rw [finished] at sent
  have network : ∀ sent ∈ run.frames.zip run.routes, sent.2 = .fast → IsNetwork sent.1 := by
    rw [sent]
    intro sent membership fast
    obtain ⟨passage, listed, rfl⟩ := List.mem_map.mp membership
    exact (balanced.records.sound passage listed).network fast
  have reached : ∀ frame ∈ ((run.frames.zip run.routes).filter fun sent =>
      sent.2.reaches .fast).map Prod.fst, Whole Word.last frame := by
    rw [sent]
    intro frame membership
    obtain ⟨_, listed, rfl⟩ := List.mem_map.mp membership
    obtain ⟨passage, left, rfl⟩ := List.mem_map.mp (List.mem_filter.mp listed).1
    exact (balanced.records.sound passage left).whole.map fun _ => rfl
  obtain ⟨frames, rest⟩ := complete_remainder reached Open.nil
  rw [List.append_nil, ← (balanced.handed_of_idle phase .fast).2] at frames rest
  -- Behind whole frames no word is swallowed.
  have passing : run.router.outlets.fast.stage ≠ .swallowing := by
    intro swallowing
    have fits := accounts.fits
    rw [rest] at fits
    exact absurd (fits.swallowing_iff.mp swallowing).1 (by decide)
  rw [frames] at truncations extensions
  rw [if_neg passing] at truncations
  constructor
  · rw [truncations, finished]
    exact Route.countP_fast network fun _ => Iff.rfl
  · rw [extensions, finished]
    exact Route.countP_fast network fun _ => Iff.rfl

end Balanced

namespace Run

variable {S V : Type} [Sink S]

/-- The counters are an exact account of the run. -/
structure Audited (run : Run S (Normalizer S)) : Prop where
  wordsIn : run.router.statistics.wordsIn = run.beats.countP Beat.accepts
  /-- Every route was given to one frame, in the order of the frames. -/
  judged : run.judged.map Prod.snd = run.routes
  routed : ∀ route, run.router.statistics.routed route = run.routes.count route
  frames : run.router.statistics.frames =
    run.finished.length + if run.router.phase.route?.isSome then 1 else 0
  shortFrames : run.router.statistics.shortFrames =
    run.judged.countP fun (frame, _) => frame.length < Header.windowWords
  stallTicks : run.router.statistics.stallTicks = run.beats.countP Beat.stalls
  truncations : run.router.isIdle = true → run.router.statistics.truncations =
    (run.finished.zip run.routes).countP fun (frame, route) =>
      route = .fast ∧ max (extent frame).words 5 < frame.length
  extensions : run.router.isIdle = true → run.router.statistics.extensions =
    (run.finished.zip run.routes).countP fun (frame, route) =>
      route = .fast ∧ frame.length < (extent frame).words

theorem counted_behind (config : Config) (sinks : Outlet → S) (act : V → S → S)
    (incidents : List (Incident V)) :
    ∃ ledger, Balanced (Outlets.Tracked (fun _ _ => True) (fun _ _ => True) Normalizer.Tallied)
        (behind config sinks act incidents).router (behind config sinks act incidents).samples
        (behind config sinks act incidents).decisions ledger ∧
      (behind config sinks act incidents).Counted ledger := by
  refine balanced_behind (motive := Counted)
    (.tracked .trivial .trivial Normalizer.tracks_tallied) config sinks act
    ⟨trivial, trivial, Normalizer.tallied_around (sinks .fast)⟩ ?_ incidents ?_ ?_ ?_
  · rintro outlet manner outlets handed ⟨_, _, ⟨passed, _, accounts⟩, tallies⟩
    cases outlet with
    | fast => exact ⟨trivial, trivial, ⟨passed, trivial, accounts⟩, tallies.1, tallies.2⟩
    | _ => exact ⟨trivial, trivial, ⟨passed, trivial, accounts⟩, tallies⟩
  · exact ⟨rfl, rfl, rfl, fun route => by cases route <;> rfl⟩
  · intro run ledger next input balanced entry counted
    exact counted.tick balanced entry
  · intro run other ledger beats counters counted
    exact counted.transfer beats counters

/-- Over sinks of any kind, visited in any way, the counters account for every run. -/
theorem audit (config : Config) (sinks : Outlet → S) (act : V → S → S)
    (incidents : List (Incident V)) : (behind config sinks act incidents).Audited := by
  obtain ⟨ledger, balanced, counted⟩ := counted_behind config sinks act incidents
  have routed (route : Route) :
      (behind config sinks act incidents).router.statistics.routed route =
        (behind config sinks act incidents).routes.count route := by
    rw [← balanced.counted_routes counted]
    cases route <;> rfl
  constructor
  · exact counted.wordsIn
  · exact balanced.judged_routes
  · exact routed
  · rw [← balanced.length_routes]
    exact Statistics.frames_of_routed _ _ routed
  · rw [balanced.judged]
    exact counted.shortFrames
  · exact counted.stallTicks
  · exact fun idle => (balanced.tallies_of_idle idle).1
  · exact fun idle => (balanced.tallies_of_idle idle).2

/-- The words of a datagram for the service, with one word behind its declared end. -/
def prolonged : List Word :=
  Delivery.datagram.dropLast ++ [.full 0x12345678, .full 0, .full 0, .terminal 0 3]

/-- A broadcast that has to wait once, a datagram that is cut, and one that is filled up. -/
def varied : List (Incident Queue.Taking) :=
  attended (Delivery.announcement.map some ++ [none]) ++ [.tick none] ++
    attended (List.replicate 3 none ++ (prolonged.take 12).map some ++ List.replicate 13 none ++
      (prolonged.drop 12).map some ++ Delivery.datagram.map some ++ List.replicate 17 none)

/-- Behind queues of one word every counter but those of other routes has moved. -/
theorem audit_varied :
    let run := behind Delivery.station (fun _ => Queue.ofDepth 1)
      (fun (taking : Queue.Taking) queue => queue.take taking) varied
    run.Audited ∧ run.router.isIdle = true ∧ run.routes = [.both, .fast, .fast] ∧
      run.finished = [Delivery.announcement, prolonged, Delivery.datagram] ∧
      run.router.statistics =
        { slow := 0, other := 0, both := 1, fast := 2, dropped := 0, wordsIn := 30,
          shortFrames := 1, truncations := 1, extensions := 1, stallTicks := 1 } := by
  intro run
  have audited : run.Audited := audit Delivery.station (fun _ => Queue.ofDepth 1) _ varied
  have idle : run.router.isIdle = true := by decide +kernel
  have routes : run.routes = [.both, .fast, .fast] := by decide +kernel
  have finished : run.finished = [Delivery.announcement, prolonged, Delivery.datagram] := by
    decide +kernel
  exact ⟨audited, idle, routes, finished, by decide +kernel⟩

end Run

end FrameRouter
