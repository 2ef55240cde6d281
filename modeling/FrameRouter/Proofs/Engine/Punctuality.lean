import FrameRouter.Proofs.Engine.Agenda
import FrameRouter.Proofs.Engine.Counting
import FrameRouter.Proofs.Engine.Progress

/-!
# Punctuality

In front of sinks that are always ready a session loses no tick: its frames
have left after a number of ticks that their lengths settle, and every word is
accepted and leaves in a tick of its own.
-/

namespace FrameRouter

open Cutting Normalization

namespace Sink

variable {S : Type} [Sink S]

/-- What becomes of a sink as it is handed words and ticks pass. -/
inductive Becomes (sink : S) : S → Prop where
  | start : Becomes sink sink
  | push {later : S} (becomes : Becomes sink later) (word : Word) :
      Becomes sink (Sink.push later word)
  | tick {later : S} (becomes : Becomes sink later) : Becomes sink (Sink.tick later)

/-- The sink is ready, whatever it has been handed and however many ticks have passed. -/
def Attentive (sink : S) : Prop := ∀ later, Becomes sink later → Sink.ready later = true

theorem Becomes.trans {sink later latest : S} (first : Becomes sink later)
    (second : Becomes later latest) : Becomes sink latest := by
  induction second with
  | start => exact first
  | push _ word ih => exact ih.push word
  | tick _ ih => exact ih.tick

theorem tracks_attentive : Tracks fun (sink : S) (_ : List Word) => Attentive sink where
  push := fun word attentive _ later becomes =>
    attentive later ((Becomes.start.push word).trans becomes)
  tick := fun attentive later becomes => attentive later (Becomes.start.tick.trans becomes)

end Sink

/-- A scripted sink that is always ready is attentive. -/
theorem ScriptedSink.attentive_always : Sink.Attentive (ofSchedule .always) := by
  intro later becomes
  have schedule : later.schedule = .always := by
    induction becomes with
    | start => rfl
    | push _ word ih => exact ih
    | tick _ ih => exact ih
  change later.schedule.readyAt later.now = true
  rw [schedule]
  rfl

namespace Session

variable {S : Type} [Sink S]

/-- The session behind so many steps. -/
def after (session : Session S) : Nat → Session S
  | 0 => session
  | ticks + 1 => (session.after ticks).step.1

/-- What is found in the first ticks, each item with its tick. -/
def log {α : Type} (session : Session S) (found : Beat S (Normalizer S) → Option α)
    (ticks : Nat) : List (Nat × α) :=
  (List.range ticks).filterMap fun tick => (found (session.after tick).beat).map (Prod.mk tick)

/-- The words accepted in the first ticks. -/
def intake (session : Session S) : Nat → List (Nat × Word) :=
  session.log fun beat => beat.sample?.map Sample.word

/-- The words that leave in the first ticks, each with its route. -/
def departures (session : Session S) : Nat → List (Nat × Route × Word) := session.log Beat.exit?

theorem log_succ {α : Type} (session : Session S) (found : Beat S (Normalizer S) → Option α)
    (ticks : Nat) : session.log found (ticks + 1) = session.log found ticks ++
      (found (session.after ticks).beat).toList.map (Prod.mk ticks) := by
  unfold log
  rw [List.range_succ, List.filterMap_append]
  cases item : found (session.after ticks).beat <;> simp [item]

/-- An item of the log is found in its tick. -/
theorem found_of_mem_log {α : Type} {session : Session S}
    {found : Beat S (Normalizer S) → Option α} {ticks tick : Nat} {item : α}
    (listed : (tick, item) ∈ session.log found ticks) :
    found (session.after tick).beat = some item := by
  obtain ⟨_, _, entry⟩ := List.mem_filterMap.mp listed
  obtain ⟨_, isFound, same⟩ := Option.map_eq_some_iff.mp entry
  cases same
  exact isFound

theorem word_of_mem_intake {session : Session S} {ticks tick : Nat} {word : Word}
    (listed : (tick, word) ∈ session.intake ticks) :
    (session.after tick).beat.sample?.map Sample.word = some word :=
  found_of_mem_log listed

/-- Sinks of which it is only known that they are attentive. -/
abbrev Attended (_ : List Frame) (sink : S) (_ : List Word) : Prop := Sink.Attentive sink

/-- The books of a session that has lost no tick so far. -/
structure OnTime (config : Config) (frames : List Frame) (session : Session S) (ticks : Nat)
    (samples : List Sample) (decisions : List Decision) (ledger : Ledger) : Prop where
  accounts : Delivery.Accounts Attended config frames ⟨session.after ticks, fun _ => []⟩ samples
    decisions ledger
  orderly : (session.after ticks).source.Orderly
  settled : owed (session.after ticks).router.outlets.fast.stage = []
  unstalled : (session.after ticks).router.counters.stallTicks = 0
  clock : ¬(session.after ticks).Rested → ticks = ledger.clock
  rest : (session.after ticks).Rested → Frame.duration (Delivery.proper frames) ≤ ticks
  intake : session.intake ticks = ledger.intake
  departures : session.departures ticks = ledger.departures

end Session

/-- A normalizer that owes nothing lets a tick pass to the sink behind it. -/
theorem Normalizer.owed_tick_of_settled {S : Type} [Sink S] {normalizer : Normalizer S}
    (settled : owed normalizer.stage = []) : owed (Sink.tick normalizer).stage = [] := by
  rw [tick_of_settled settled]
  exact settled

namespace Session

variable {S : Type} [Sink S] {config : Config} {frames : List Frame} {session : Session S}
  {ticks : Nat} {samples : List Sample} {decisions : List Decision} {ledger next : Ledger}

theorem attentive_sink {received : Outlet → List Frame} {outlets : Outlets S}
    {handed : Outlet → List Word} (related : Delivery.Related Attended received outlets handed)
    (outlet : Outlet) : Sink.Attentive (outlets.sink outlet) := by
  obtain ⟨slow, other, _, fast, _⟩ := related
  cases outlet with
  | slow => exact slow
  | other => exact other
  | fast => exact fast

/-- A session comes to rest without a word only at the end of its source. -/
theorem rested_of_unsampled (orderly : session.source.Orderly)
    (unsampled : session.beat.sample? = none) (idle : session.step.1.router.phase = .idle) :
    session.step.1.Rested := by
  have refused : (session.router.tick session.source.current).2 = false := by
    have accepts := session.beat.isSome_sample?
    rw [unsampled] at accepts
    exact accepts.symm
  have turn := session.router.tick_turn session.source.current
  rw [step_fst] at idle ⊢
  rw [refused] at turn ⊢
  exact ⟨orderly.isEmpty (turn.offered_none idle), idle⟩

/-- A session at rest only lets its sinks advance. -/
theorem step_of_rested (rested : session.Rested) :
    session.step.1 = ⟨session.router.advanced, session.source⟩ ∧ session.beat.sample? = none ∧
      session.beat.exit? = none := by
  obtain ⟨drained, idle⟩ := rested
  have nothing : session.source.current = none := by
    rw [Source.current, List.isEmpty_iff.mp (Bool.and_eq_true_iff.mp drained).1]
    rfl
  have resting : session.router.advanced.phase = .idle := idle
  have undecided : session.router.advanced.phase ≠ .deciding := by simp [resting]
  have empty : ∀ route, session.router.advanced.phase = .forwarding route →
      session.router.advanced.ring.front? = none := by
    intro route forwarding
    cases resting.symm.trans forwarding
  have ticked : session.router.tick none = (session.router.advanced, false) :=
    (Router.Turn.rest undecided empty).act_eq
  refine ⟨?_, ?_, ?_⟩
  · rw [step_fst, nothing, ticked]
    rfl
  · rw [Beat.sample?, beat, nothing, ticked]
    rfl
  · rw [Beat.exit?, beat, nothing]
    exact (Router.Blocked.rest undecided empty).exit?_eq

section Books

variable {received : Outlet → List Frame}
  (accounts : Delivery.Accounts Attended config frames ⟨session, received⟩ samples decisions
    ledger)

include accounts

/-- When the sinks have advanced, they are ready, and still nothing is owed. -/
theorem accepts_advanced (settled : owed session.router.outlets.fast.stage = []) (route : Route) :
    session.router.advanced.outlets.accepts route = true := by
  have related := (accounts.advanced fun _ => Sink.tracks_attentive).balanced.outlets
  exact Outlets.accepts_of_ready (fun outlet => attentive_sink related outlet _ .start)
    (Normalizer.owed_tick_of_settled settled) route

/-- No word waits for an outlet. -/
theorem stallTicks_step (settled : owed session.router.outlets.fast.stage = []) :
    session.step.1.router.counters.stallTicks = session.router.counters.stallTicks := by
  have turn := session.router.tick_turn session.source.current
  have free : session.router.advanced.stalls session.source.current = false := by
    refine Bool.eq_false_iff.mpr fun stalls => ?_
    obtain ⟨route, _, _, _, refused⟩ := Router.of_stalls stalls
    exact absurd (refused.symm.trans (accepts_advanced accounts settled route)) (by decide)
  obtain ⟨_, uncounted, _⟩ := session.router.advanced.count_events session.source.current
    (session.router.tick session.source.current).2
  rw [free] at uncounted
  rw [step_fst]
  change Statistics.tally (session.router.tick session.source.current).1.counters .stall = _
  rw [turn.counters_eq, Statistics.tally_foldl, uncounted]
  rfl

variable (isSealed : ∀ frame ∈ Delivery.proper frames, Frame.Sealed frame.words)

include isSealed

/-- Once a session rests the ledger files all of its frames. -/
theorem frames_of_rested (rested : session.Rested) :
    ledger.current = [] ∧ ledger.decision = none ∧ ledger.frames = Delivery.proper frames := by
  obtain ⟨drained, idle⟩ := rested
  obtain ⟨nothing, undecided, _⟩ := accounts.balanced.flight.of_idle idle
  refine ⟨nothing, undecided, ?_⟩
  obtain ⟨rest, split, stream⟩ := accounts.ahead isSealed
  rw [nothing, Source.remaining_of_isEmpty drained] at stream
  cases rest with
  | nil => rw [split, List.append_nil, Ledger.frames]
  | cons frame others =>
      -- A frame that is still to leave would have words.
      have words := (List.append_eq_nil_iff.mp stream).1
      exact absurd words (isSealed frame (by rw [split]; simp)).whole.ne_nil

/-- Some frame has not left a session that does not rest, and the work on it is not done. -/
theorem clock_lt_of_restless (orderly : session.source.Orderly) (restless : ¬session.Rested) :
    ledger.clock < Frame.duration (Delivery.proper frames) := by
  have flight := accounts.balanced.flight
  obtain ⟨rest, split, stream⟩ := accounts.ahead isSealed
  cases rest with
  | nil =>
      obtain ⟨current, remaining⟩ := List.append_eq_nil_iff.mp stream.symm
      rw [List.map_eq_nil_iff.mp current] at flight
      have presented : session.source.current = none := by
        rw [Source.current, (List.append_eq_nil_iff.mp remaining).1]
        rfl
      exact absurd ⟨orderly.isEmpty presented, flight.rested⟩ restless
  | cons frame others =>
      have listed : frame ∈ Delivery.proper frames := by rw [split]; simp
      have isWhole := (isSealed frame listed).whole
      have unfinished : ledger.begun < Frame.cost frame.length := by
        by_cases nothing : ledger.current = []
        · rw [(Ledger.begun_le flight).2 nothing]
          exact Nat.succ_pos _
        · have restSealed : ∀ later ∈ frame :: others, Frame.Sealed later.words := by
            intro later membership
            exact isSealed later (by rw [split]; exact List.mem_append_right _ membership)
          obtain ⟨_, _, same, within⟩ :=
            Delivery.current_le restSealed (flight.words_shape nothing) nothing stream
          cases same
          -- Of the frame its terminal word at least has not left.
          have short : ledger.moved.length < frame.length := by
            rw [List.map_cons, List.flatten_cons, flight.words, List.append_assoc] at stream
            exact flight.isOpen_moved.length_lt isWhole stream
          have once : ledger.decision.toList.length ≤ 1 := by cases ledger.decision <;> simp
          unfold Ledger.begun Frame.cost
          omega
      rw [split, Ledger.clock, Ledger.onset_eq]
      exact (Nat.add_lt_add_left unfinished _).trans_le (Frame.duration_cons_le _ frame others)

/-- Unless it rests, a session between attentive sinks makes a stride. -/
theorem stride_of_restless (orderly : session.source.Orderly)
    (settled : owed session.router.outlets.fast.stage = []) (restless : ¬session.Rested) :
    ∃ next,
      Delivery.Accounts Attended config frames ⟨session.step.1, received⟩
          (samples ++ session.beat.sample?.toList)
          (decisions ++ session.beat.decision?.toList) next ∧
        ledger.Stride session.beat.sample? session.beat.exit? next ∧
          (owed session.step.1.router.outlets.fast.stage).length + ledger.fills = next.fills := by
  have advanced := accounts.advanced fun _ => Sink.tracks_attentive
  have attentive := attentive_sink advanced.balanced.outlets
  have settledStill : owed session.router.advanced.outlets.fast.stage = [] :=
    Normalizer.owed_tick_of_settled settled
  obtain ⟨next, entered, stepped⟩ := accounts.stepped fun _ => Sink.tracks_attentive
  have entry : ledger.Entry session.router.advanced session.source.current
    (session.router.advanced.exit? session.source.current) next := entered
  have turn := session.router.tick_turn session.source.current
  have router : session.step.1.router = (session.router.tick session.source.current).1 := by
    rw [step_fst]
  have free : ¬session.router.advanced.Blocked session.source.current :=
    advanced.not_blocked isSealed orderly (fun outlet => attentive outlet _ .start) settledStill
      restless
  have balanced := stepped.balanced
  rw [show (Delivery.mk session.step.1 received).session.router = _ from router] at balanced
  refine ⟨next, stepped, entry.stride advanced.balanced turn balanced free, ?_⟩
  have released :
      (owed (session.router.advanced.released session.source.current).fast.stage).length =
        (owed session.router.advanced.outlets.fast.stage).length +
          ledger.owing (session.router.advanced.exit? session.source.current) :=
    Balanced.length_owed_released advanced.balanced entry
  rw [outlets_step, released, settledStill, entry.fills_eq, List.length_nil, Nat.zero_add,
    Nat.add_comm]

end Books

/-- Frames wait at the source, and no tick has passed. -/
theorem onTime_start (config : Config) (frames : List Frame)
    (isSealed : ∀ frame ∈ Delivery.proper frames, Frame.Sealed frame.words) {slow other fast : S}
    (slowAttentive : Sink.Attentive slow) (otherAttentive : Sink.Attentive other)
    (fastAttentive : Sink.Attentive fast) :
    OnTime config frames ((ofSinks config slow other fast).send frames) 0 [] [] .blank := by
  have accounts : Delivery.Accounts Attended config frames
      ⟨(ofSinks config slow other fast).send frames, fun _ => []⟩ [] [] .blank :=
    Delivery.accounts_sent config frames slowAttentive otherAttentive fastAttentive
  refine ⟨accounts, Source.orderly_pushAll frames, rfl, rfl, fun _ => rfl, fun rested => ?_, rfl,
    rfl⟩
  obtain ⟨_, _, same⟩ := frames_of_rested accounts isSealed rested
  rw [← same]
  exact Nat.le_refl 0

/-- Until it rests a session makes a stride in every tick. -/
theorem OnTime.step (isSealed : ∀ frame ∈ Delivery.proper frames, Frame.Sealed frame.words)
    (complete : ∀ frame ∈ Frame.onFastPath config frames, frame.missing = 0)
    (onTime : OnTime config frames session ticks samples decisions ledger)
    (restless : ¬(session.after ticks).Rested) :
    ∃ samples decisions next,
      OnTime config frames session (ticks + 1) samples decisions next := by
  obtain ⟨accounts, orderly, settled, unstalled, clock, _, intake, departures⟩ := onTime
  obtain ⟨next, stepped, stride, owes⟩ :=
    stride_of_restless accounts isSealed orderly settled restless
  have now := clock restless
  have settledNext : owed (session.after (ticks + 1)).router.outlets.fast.stage = [] := by
    have nothing : ((Frame.onFastPath config frames).map Frame.missing).sum = 0 :=
      List.sum_eq_zero fun _ membership => by
        obtain ⟨frame, listed, rfl⟩ := List.mem_map.mp membership
        exact complete frame listed
    have fills := stepped.fills_le isSealed
    rw [nothing] at fills
    have owing : (owed (session.after (ticks + 1)).router.outlets.fast.stage).length ≤ next.fills :=
      owes ▸ Nat.le_add_right _ _
    exact List.length_eq_zero_iff.mp (Nat.le_zero.mp (owing.trans fills))
  refine ⟨_, _, next, stepped, orderly_step orderly, settledNext, ?_, ?_, ?_, ?_, ?_⟩
  · exact (stallTicks_step accounts settled).trans unstalled
  · intro restlessNext
    rcases stride.clock_eq with later | ⟨⟨unsampled, nothing, _⟩, _⟩
    · rw [later, now]
    · have flight := stepped.balanced.flight
      rw [nothing] at flight
      exact absurd (rested_of_unsampled orderly unsampled flight.rested) restlessNext
  · intro rested
    obtain ⟨nothing, undecided, same⟩ := frames_of_rested stepped isSealed rested
    rw [← same, stride.duration_eq undecided nothing, now]
  · rw [stride.intake_eq, ← now, ← intake]
    exact log_succ _ _ ticks
  · rw [stride.departures_eq, ← now, ← departures]
    exact log_succ _ _ ticks

/-- Once a session rests, nothing but the ticks goes on. -/
theorem OnTime.still (onTime : OnTime config frames session ticks samples decisions ledger)
    (rested : (session.after ticks).Rested) :
    OnTime config frames session (ticks + 1) samples decisions ledger := by
  obtain ⟨accounts, orderly, settled, unstalled, _, rest, intake, departures⟩ := onTime
  obtain ⟨stepped, unsampled, unleft⟩ := step_of_rested rested
  have after : session.after (ticks + 1) =
      ⟨(session.after ticks).router.advanced, (session.after ticks).source⟩ := stepped
  have restedNext : (session.after (ticks + 1)).Rested := by
    rw [after]
    exact rested
  refine ⟨?_, ?_, ?_, ?_, fun restless => absurd restedNext restless,
    fun _ => (rest rested).trans (Nat.le_succ ticks), ?_, ?_⟩
  · rw [after]
    exact accounts.advanced fun _ => Sink.tracks_attentive
  · rw [after]
    exact orderly
  · rw [after]
    exact Normalizer.owed_tick_of_settled settled
  · rw [after]
    exact unstalled
  · refine (log_succ _ _ ticks).trans ?_
    rw [unsampled]
    exact (List.append_nil _).trans intake
  · refine (log_succ _ _ ticks).trans ?_
    rw [unleft]
    exact (List.append_nil _).trans departures

/-- No tick is lost. -/
theorem OnTime.all (isSealed : ∀ frame ∈ Delivery.proper frames, Frame.Sealed frame.words)
    (complete : ∀ frame ∈ Frame.onFastPath config frames, frame.missing = 0)
    (start : OnTime config frames session 0 [] [] .blank) (ticks : Nat) :
    ∃ samples decisions ledger, OnTime config frames session ticks samples decisions ledger := by
  induction ticks with
  | zero => exact ⟨_, _, _, start⟩
  | succ ticks ih =>
      obtain ⟨samples, decisions, ledger, onTime⟩ := ih
      by_cases rested : (session.after ticks).Rested
      · exact ⟨_, _, _, onTime.still rested⟩
      · exact onTime.step isSealed complete rested

/-- A session that loses no tick rests after the duration of its frames, and not earlier. -/
theorem OnTime.rested_iff
    (isSealed : ∀ frame ∈ Delivery.proper frames, Frame.Sealed frame.words)
    (onTime : OnTime config frames session ticks samples decisions ledger) :
    (session.after ticks).Rested ↔ Frame.duration (Delivery.proper frames) ≤ ticks := by
  constructor
  · exact onTime.rest
  · intro past
    by_contra restless
    have before := clock_lt_of_restless onTime.accounts isSealed onTime.orderly restless
    rw [← onTime.clock restless] at before
    exact absurd past (Nat.not_le_of_lt before)

/-- In the end every word has been accepted, and has left, in the tick of its own. -/
theorem OnTime.agenda (isSealed : ∀ frame ∈ Delivery.proper frames, Frame.Sealed frame.words)
    (onTime : OnTime config frames session ticks samples decisions ledger)
    (past : Frame.duration (Delivery.proper frames) ≤ ticks) :
    session.intake ticks = Frame.intakes (Delivery.proper frames) ∧
      session.departures ticks =
        Frame.departures (Frame.route config) (Delivery.proper frames) := by
  obtain ⟨nothing, undecided, same⟩ :=
    frames_of_rested onTime.accounts isSealed ((onTime.rested_iff isSealed).mpr past)
  rw [onTime.intake, onTime.departures, Ledger.intake_of_rested nothing,
    Ledger.departures_of_rested undecided fun _ listed => onTime.accounts.route listed, same]
  exact ⟨rfl, rfl⟩

/-- A step accepts as many words as are taken in. -/
theorem Outcome.step_after (session : Session S) (ticks : Nat) :
    Outcome.step ⟨session.after ticks, ticks, (session.intake ticks).length⟩ =
      ⟨session.after (ticks + 1), ticks + 1, (session.intake (ticks + 1)).length⟩ := by
  have accepts := (session.after ticks).beat.isSome_sample?
  have second : (session.after ticks).step.2 = (session.after ticks).beat.accepts := by
    unfold Session.step
    split <;> rename_i ticked <;> exact (congrArg Prod.snd ticked).symm
  rw [Session.intake, log_succ, List.length_append, List.length_map, Outcome.step, after]
  dsimp only
  rw [second, ← accepts]
  cases (session.after ticks).beat.sample? <;> rfl

/-- A run ends as soon as the session is done. -/
theorem Outcome.run_after {last : Nat} (done : (session.after last).isDone = true)
    (undone : ∀ tick < last, (session.after tick).isDone = false) (limit : Nat)
    (within : ticks ≤ last) (enough : last ≤ ticks + limit) :
    Outcome.run limit ⟨session.after ticks, ticks, (session.intake ticks).length⟩ =
      ⟨session.after last, last, (session.intake last).length⟩ := by
  induction limit generalizing ticks with
  | zero =>
      cases Nat.le_antisymm within enough
      rfl
  | succ limit ih =>
      unfold Outcome.run
      rcases Nat.eq_or_lt_of_le within with rfl | before
      · rw [if_pos done]
      · rw [if_neg (by simp [undone ticks before]), Outcome.step_after]
        exact ih before (by omega)

/--
A frame hands over to the next one: as its final word leaves, or in the tick
behind if it is longer than the header window, the first word of the next frame
is accepted.
-/
structure Handover (config : Config) (session : Session S) (frame next : Frame) (tick : Nat) :
    Prop where
  final : ∃ word, frame.words.getLast? = some word ∧
    (session.after tick).beat.exit? = some (frame.route config, word)
  first : ∃ word, next.words.head? = some word ∧
    (session.after (tick + if frame.length ≤ Header.windowWords then 0 else 1)).beat.sample?.map
      Sample.word = some word

/--
The session takes the duration of its frames, and in it every word has its
ticks.  Behind that only a sink with work of its own keeps it from being done.
-/
structure Punctual (config : Config) (frames : List Frame) (session : Session S) : Prop where
  isDone_iff : ∀ ticks, (session.after ticks).isDone = true ↔ Frame.duration frames ≤ ticks ∧
    ∀ outlet, Sink.isIdle ((session.after ticks).router.outlets.sink outlet) = true
  run : ∀ limit, Frame.duration frames ≤ limit →
    (session.after (Frame.duration frames)).isDone = true →
      session.run limit = ⟨session.after (Frame.duration frames), Frame.duration frames,
        (frames.map Frame.length).sum⟩
  stallTicks : ∀ ticks, (session.after ticks).router.statistics.stallTicks = 0
  intake : ∀ ticks, Frame.duration frames ≤ ticks → session.intake ticks = Frame.intakes frames
  departures : ∀ ticks, Frame.duration frames ≤ ticks →
    session.departures ticks = Frame.departures (Frame.route config) frames
  handover : ∀ before frame next after, frames = before ++ frame :: next :: after →
    Handover config session frame next
      (Frame.onset before + min frame.length Header.windowWords + frame.length)

/-- Whole frames hand over to each other in the ticks of their words. -/
theorem handover_of_agenda {before after : List Frame} {frame next : Frame}
    (isSealed : ∀ listed ∈ before ++ frame :: next :: after, Frame.Sealed listed.words)
    (intake : session.intake ticks = Frame.intakes (before ++ frame :: next :: after))
    (departures : session.departures ticks =
      Frame.departures (Frame.route config) (before ++ frame :: next :: after)) :
    Handover config session frame next
      (Frame.onset before + min frame.length Header.windowWords + frame.length) where
  final := by
    obtain ⟨body, final, words, _⟩ := (isSealed frame (by simp)).whole
    have isLast : frame.words.getLast? = some final := by simp [words]
    have listed : (Frame.onset before + min frame.length Header.windowWords + frame.length,
        frame.route config, final) ∈ session.departures ticks := by
      rw [departures]
      exact Frame.mem_agenda (Frame.mem_departure_getLast isLast _ _ _)
    exact ⟨final, isLast, found_of_mem_log listed⟩
  first := by
    obtain ⟨word, first⟩ := Option.isSome_iff_exists.mp
      (List.isSome_head?.mpr (isSealed next (by simp)).whole.ne_nil)
    have onset : Frame.onset (before ++ [frame]) =
        Frame.onset before + min frame.length Header.windowWords + frame.length +
          if frame.length ≤ Header.windowWords then 0 else 1 := by
      rw [Frame.onset, List.map_append, List.sum_append, List.map_singleton, List.sum_singleton,
        Frame.span_eq, Frame.onset]
      omega
    have listed : (Frame.onset (before ++ [frame]), word) ∈ session.intake ticks := by
      rw [intake, List.append_cons]
      exact Frame.mem_agenda (Frame.mem_intake_head first _)
    rw [onset] at listed
    exact ⟨word, first, word_of_mem_intake listed⟩

/--
Between attentive sinks a session loses no tick, if no frame on the fast path
is shorter than it declares.
-/
theorem punctual (config : Config) {slow other fast : S} (slowAttentive : Sink.Attentive slow)
    (otherAttentive : Sink.Attentive other) (fastAttentive : Sink.Attentive fast)
    (lists : List (List Word))
    (complete : ∀ frame ∈ Frame.onFastPath config (lists.map Frame.ofWords), frame.missing = 0) :
    Punctual config (Delivery.proper (lists.map Frame.ofWords))
      ((ofSinks config slow other fast).send (lists.map Frame.ofWords)) := by
  have isSealed : ∀ frame ∈ Delivery.proper (lists.map Frame.ofWords), Frame.Sealed frame.words :=
    fun _ => Delivery.sealed_of_proper
  have onTime := (onTime_start config (lists.map Frame.ofWords) isSealed slowAttentive
    otherAttentive fastAttentive).all isSealed complete
  generalize (ofSinks config slow other fast).send (lists.map Frame.ofWords) = session at onTime ⊢
  generalize lists.map Frame.ofWords = frames at isSealed onTime ⊢
  have isDone (ticks : Nat) : (session.after ticks).isDone = true ↔
      Frame.duration (Delivery.proper frames) ≤ ticks ∧
        ∀ outlet, Sink.isIdle ((session.after ticks).router.outlets.sink outlet) = true := by
    obtain ⟨_, _, _, onTime⟩ := onTime ticks
    rw [Session.isDone_iff onTime.settled, onTime.rested_iff isSealed]
  have agenda (ticks : Nat) (past : Frame.duration (Delivery.proper frames) ≤ ticks) :
      session.intake ticks = Frame.intakes (Delivery.proper frames) ∧
        session.departures ticks =
          Frame.departures (Frame.route config) (Delivery.proper frames) := by
    obtain ⟨_, _, _, onTime⟩ := onTime ticks
    exact onTime.agenda isSealed past
  constructor
  · exact isDone
  · intro limit enough done
    have undone : ∀ tick < Frame.duration (Delivery.proper frames),
        (session.after tick).isDone = false := fun tick before =>
      Bool.eq_false_iff.mpr fun early => Nat.not_le_of_lt before ((isDone tick).mp early).1
    have run : session.run limit = ⟨session.after (Frame.duration (Delivery.proper frames)),
        Frame.duration (Delivery.proper frames),
        (session.intake (Frame.duration (Delivery.proper frames))).length⟩ :=
      Outcome.run_after done undone limit (Nat.zero_le _) (by omega)
    rw [run, (agenda _ (Nat.le_refl _)).1, Frame.length_intakes]
  · intro ticks
    obtain ⟨_, _, _, onTime⟩ := onTime ticks
    exact onTime.unstalled
  · exact fun ticks past => (agenda ticks past).1
  · exact fun ticks past => (agenda ticks past).2
  · intro before frame next after split
    obtain ⟨intake, departures⟩ := agenda _ (Nat.le_refl _)
    rw [split] at isSealed intake departures
    exact handover_of_agenda isSealed intake departures

/-- A short frame, one that is cut on the fast path, none, a single word and a full window. -/
def mixed : List (List Word) :=
  [Delivery.announcement, Run.prolonged, [], [.zero], Delivery.datagram.set 9 (.full 0x13880fa1)]

/-- In front of scripted sinks the thirty-one words of the frames have left after 61 ticks. -/
theorem punctual_mixed :
    let ready := ScriptedSink.ofSchedule .always
    let frames := mixed.map Frame.ofWords
    let session := (ofSinks Delivery.station ready ready ready).send frames
    Sink.Attentive ready ∧
      (∀ frame ∈ Frame.onFastPath Delivery.station frames, frame.missing = 0) ∧
      (frames.map (Frame.route Delivery.station)).count .fast = 1 ∧
      (session.run 100).ticks = 61 ∧ (session.run 100).accepted = 31 := by
  intro ready frames session
  have attentive : Sink.Attentive ready := ScriptedSink.attentive_always
  have complete : ∀ frame ∈ Frame.onFastPath Delivery.station frames, frame.missing = 0 := by
    decide +kernel
  have inTime := punctual Delivery.station attentive attentive attentive mixed complete
  have duration : Frame.duration (Delivery.proper frames) = 61 := by decide +kernel
  have done := (inTime.isDone_iff _).mpr ⟨Nat.le_refl _, fun outlet => by cases outlet <;> rfl⟩
  have run := inTime.run 100 (by rw [duration]; decide) done
  refine ⟨attentive, complete, by decide +kernel, ?_, ?_⟩
  · rw [run]
    exact duration
  · rw [run]
    decide +kernel

end Session

end FrameRouter
