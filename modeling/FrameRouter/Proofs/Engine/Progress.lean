import FrameRouter.Proofs.Engine.Workload
import FrameRouter.Proofs.Trace.Loading
import FrameRouter.Replay

/-!
# Progress

A step in front of which all queues have been drained brings a session on that
is not done, and no step sets it back.  The workload of the frames therefore
bounds the number of such steps.
-/

namespace FrameRouter

open Cutting Normalization

/-- What was drained from a queue and what is in it make up its words, and it can hold a word. -/
def Queue.Serves (received : List Frame) (queue : Queue) (words : List Word) : Prop :=
  queue.Holds received words ∧ 0 < queue.capacity

/-- A queue goes on to serve. -/
theorem Queue.keeps_serves : Consumer.Keeps Queue.Serves where
  setUp := fun depth => ⟨Queue.keeps_holds.setUp depth, Nat.le_max_right depth 1⟩
  tracks := by
    intro received
    constructor
    · rintro queue words word ⟨holds, room⟩ isReady
      exact ⟨(Queue.keeps_holds.tracks received).push word holds isReady, room⟩
    · exact id
  visit := by
    rintro visit received queue words ⟨holds, room⟩
    exact ⟨Queue.keeps_holds.visit visit holds, room⟩
  collect := fun serves => Queue.keeps_holds.collect serves.1

namespace Ledger

variable {ledger : Ledger}

/-- The words of an open frame on the fast path are those behind the whole ones. -/
theorem remainder_handed {made : Decision} (sound : ∀ passage ∈ ledger.passages, passage.Sound)
    (decided : ledger.decision = some made) (fast : made.route = .fast)
    (isOpen : Open Word.last ledger.moved) :
    remainder Word.last (ledger.handed .fast) = ledger.moved := by
  have moved : ledger.inFlight .fast = ledger.moved := by
    simp [inFlight, decided, fast, Route.share, Route.reaches]
  rw [(split_handed sound isOpen .fast).2, moved]

end Ledger

/-- With a word that leaves by the fast path the words become owed that its frame lacks. -/
theorem Balanced.length_owed_released {S : Type} [Sink S] {slow other fast : S → List Word → Prop}
    {router : Router S} {samples : List Sample} {decisions : List Decision} {ledger next : Ledger}
    (balanced : Balanced (Outlets.Tracked slow other (Normalizer.Normalizes fast)) router samples
      decisions ledger)
    {input : Option Word} (entry : ledger.Entry router input (router.exit? input) next) :
    (owed (router.released input).fast.stage).length =
      (owed router.outlets.fast.stage).length + ledger.owing (router.exit? input) := by
  unfold Router.released
  cases exit : router.exit? input with
  | none => rfl
  | some left =>
      obtain ⟨route, word⟩ := left
      rw [exit] at entry
      obtain ⟨made, decided, routed, isOpen⟩ := entry.exists_decision
      obtain ⟨_, accepted, _⟩ := Router.of_exit? exit
      cases route with
      | slow => rfl
      | other => rfl
      | both => rfl
      | drop => rfl
      | fast =>
          obtain ⟨passed, _, accounts⟩ := balanced.outlets.fast
          have fits := accounts.fits
          rw [Ledger.remainder_handed balanced.records.sound decided routed isOpen] at fits
          obtain ⟨settled, _⟩ := Normalizer.ready_spec accepted word
          have stage := (router.outlets.fast.push_spec word).1
          change (owed (Sink.push router.outlets.fast word).stage).length = _
          rw [stage, settled, length_owed_accept fits settled, List.length_nil, Nat.zero_add]
          rfl

namespace Outlets

variable {S : Type} [Sink S]

/-- Ready sinks to which nothing is owed take words by every route. -/
theorem accepts_of_ready {outlets : Outlets S}
    (ready : ∀ outlet, Sink.ready (outlets.sink outlet) = true)
    (settled : owed outlets.fast.stage = []) (route : Route) : outlets.accepts route = true := by
  have slowReady : Sink.ready outlets.slow = true := ready .slow
  have otherReady : Sink.ready outlets.other = true := ready .other
  have fastReady : Sink.ready outlets.fast = true :=
    Normalizer.ready_of_settled settled (ready .fast)
  rw [accepts_eq, slowReady, otherReady, fastReady]
  simp

/-- Where nothing is owed, the outlets are idle if all sinks are. -/
theorem isIdle_iff {outlets : Outlets S} (settled : owed outlets.fast.stage = []) :
    outlets.isIdle = true ↔ ∀ outlet, Sink.isIdle (outlets.sink outlet) = true := by
  rw [isIdle, Normalizer.isIdle_of_settled settled, Bool.and_eq_true, Bool.and_eq_true]
  constructor
  · rintro ⟨⟨slow, other⟩, fast⟩ outlet
    cases outlet with
    | slow => exact slow
    | other => exact other
    | fast => exact fast
  · intro idle
    exact ⟨⟨idle .slow, idle .other⟩, idle .fast⟩

end Outlets

/-- Every frame has been taken, and none is in flight. -/
def Session.Rested {S : Type} (session : Session S) : Prop :=
  session.source.isEmpty = true ∧ session.router.phase = .idle

instance {S : Type} (session : Session S) : Decidable session.Rested :=
  inferInstanceAs (Decidable (_ ∧ _))

/-- Where nothing is owed, a session is done once it rests and its sinks are idle. -/
theorem Session.isDone_iff {S : Type} [Sink S] {session : Session S}
    (settled : owed session.router.outlets.fast.stage = []) :
    session.isDone = true ↔ session.Rested ∧
      ∀ outlet, Sink.isIdle (session.router.outlets.sink outlet) = true := by
  rw [isDone, Router.isIdle, Bool.and_eq_true, Bool.and_eq_true, beq_iff_eq,
    Outlets.isIdle_iff settled, ← and_assoc, Rested]

namespace Delivery.Accounts

section

variable {S : Type} {holds : List Frame → S → List Word → Prop} {config : Config}
  {frames : List Frame} {session : Session S} {received : Outlet → List Frame}
  {samples : List Sample} {decisions : List Decision} {ledger : Ledger}

/-- Behind the last word at the source no frame is open. -/
theorem eq_nil_of_isOpen
    (accounts : Accounts holds config frames ⟨session, received⟩ samples decisions ledger)
    (isSealed : ∀ frame ∈ proper frames, Frame.Sealed frame.words)
    (drained : session.source.isEmpty = true) (isOpen : Open Sample.ends ledger.current) :
    ledger.current = [] := by
  obtain ⟨rest, split, stream⟩ := accounts.ahead isSealed
  rw [Source.remaining_of_isEmpty drained, List.append_nil] at stream
  cases rest with
  | nil => exact List.map_eq_nil_iff.mp stream.symm
  | cons frame others =>
      have listed : frame ∈ proper frames := by rw [split]; simp
      obtain ⟨body, final, words, _, ended⟩ := (isSealed frame listed).whole
      have inside : final ∈ ledger.current.map Sample.word := by
        rw [← stream, List.map_cons, List.flatten_cons, words]
        simp
      obtain ⟨sample, held, rfl⟩ := List.mem_map.mp inside
      exact absurd (ended.symm.trans (isOpen sample held)) (by decide)

/-- Unless it rests, a session that owes no word goes on if its sinks are ready. -/
theorem not_blocked [Sink S]
    (accounts : Accounts holds config frames ⟨session, received⟩ samples decisions ledger)
    (isSealed : ∀ frame ∈ proper frames, Frame.Sealed frame.words)
    (orderly : session.source.Orderly)
    (ready : ∀ outlet, Sink.ready (session.router.outlets.sink outlet) = true)
    (settled : owed session.router.outlets.fast.stage = [])
    (restless : ¬session.Rested) : ¬session.router.Blocked session.source.current := by
  have flight := accounts.balanced.flight
  generalize presented : session.source.current = input
  intro blocked
  cases blocked with
  | rest undecided nothing =>
      have drained := orderly.isEmpty presented
      -- Without a word at the source no frame is open, so only a router at rest has nothing to do.
      cases phase : session.router.phase with
      | idle => exact restless ⟨drained, phase⟩
      | capturing =>
          obtain ⟨_, _, isOpen, _⟩ := flight.of_capturing phase
          have busy : session.router.phase ≠ .idle := by simp [phase]
          exact (flight.shape busy).2 (accounts.eq_nil_of_isOpen isSealed drained isOpen)
      | deciding => exact undecided phase
      | forwarding route =>
          obtain ⟨made, _, _, forwarded⟩ := flight.of_forwarding phase
          obtain ⟨_, _, isOpen, _⟩ := forwarded.of_empty (nothing route phase)
          exact forwarded.complete.ne_nil (accounts.eq_nil_of_isOpen isSealed drained isOpen)
  | stall input route forwarding refused =>
      exact absurd (refused.symm.trans (Outlets.accepts_of_ready ready settled route)) (by decide)

end

theorem capacity_pos {config : Config} {frames : List Frame} {session : Session Queue}
    {received : Outlet → List Frame} {samples : List Sample} {decisions : List Decision}
    {ledger : Ledger}
    (accounts : Accounts Queue.Serves config frames ⟨session, received⟩ samples decisions ledger)
    (outlet : Outlet) : 0 < (session.router.outlets.sink outlet).capacity := by
  obtain ⟨slow, other, passed, fast, _⟩ := accounts.balanced.outlets
  cases outlet with
  | slow => exact slow.2
  | other => exact other.2
  | fast => exact fast.2

end Delivery.Accounts

namespace Session

/--
The books of a session over queues, and how far the work on its frames has got:
the pieces of work, and the words that fill up frames without those still owed.
-/
structure Underway (config : Config) (frames : List Frame) (session : Session Queue)
    (headway : Nat) : Prop where
  books : ∃ received samples decisions ledger,
    Delivery.Accounts Queue.Serves config frames ⟨session, received⟩ samples decisions ledger ∧
      ledger.work + ledger.fills = headway + (owed session.router.outlets.fast.stage).length
  orderly : session.source.Orderly

variable {config : Config} {frames : List Frame} {session : Session Queue} {headway : Nat}

theorem underway_start (config : Config) (depth : Nat) (frames : List Frame) :
    Underway config frames ((Session.ofDepth config depth).send frames) 0 where
  books := ⟨_, _, _, _,
    Delivery.accounts_start Queue.keeps_serves config (fun _ => depth) frames, rfl⟩
  orderly := Source.orderly_pushAll frames

/-- The workload is never exceeded. -/
theorem Underway.headway_le
    (isSealed : ∀ frame ∈ Delivery.proper frames, Frame.Sealed frame.words)
    (underway : Underway config frames session headway) :
    headway ≤ Frame.workload config frames := by
  obtain ⟨_, _, _, ledger, accounts, headway⟩ := underway.books
  have work := accounts.work_le isSealed
  have fills := accounts.fills_le isSealed
  unfold Frame.workload
  omega

/-- Draining a queue changes nothing in the books. -/
theorem Underway.drainOutlet (underway : Underway config frames session headway)
    (outlet : Outlet) :
    Underway config frames { session with router := (session.router.drainOutlet outlet).2 }
      headway := by
  obtain ⟨⟨received, samples, decisions, ledger, accounts, reached⟩, orderly⟩ := underway
  refine ⟨⟨_, samples, decisions, ledger, accounts.visit Queue.keeps_serves outlet (), ?_⟩,
    orderly⟩
  rw [reached]
  cases outlet <;> rfl

/-- The session behind the queues when they have been drained. -/
def drained (session : Session Queue) : Session Queue :=
  { session with router := session.router.drain.2 }

theorem Underway.drained (underway : Underway config frames session headway) :
    Underway config frames session.drained headway :=
  ((underway.drainOutlet .slow).drainOutlet .other).drainOutlet .fast

/-- Drained queues have room. -/
theorem Underway.ready_drained (underway : Underway config frames session headway)
    (outlet : Outlet) : Sink.ready (session.drained.router.outlets.sink outlet) = true := by
  obtain ⟨_, _, _, _, accounts, _⟩ := underway.books
  have room := accounts.capacity_pos outlet
  cases outlet with
  | slow => exact decide_eq_true room
  | other => exact decide_eq_true room
  | fast => exact decide_eq_true room

/-- A step never sets the work back, and brings it on if there is room and something to do. -/
theorem Underway.step
    (isSealed : ∀ frame ∈ Delivery.proper frames, Frame.Sealed frame.words)
    (underway : Underway config frames session headway) :
    ∃ further, Underway config frames session.step.1 further ∧ headway ≤ further ∧
      ((∀ outlet, Sink.ready (session.router.outlets.sink outlet) = true) →
        session.isDone = false → headway < further) := by
  obtain ⟨⟨received, samples, decisions, ledger, accounts, reached⟩, orderly⟩ := underway
  obtain ⟨next, entered, stepped⟩ := accounts.step Queue.keeps_serves
  have entry : ledger.Entry session.router.advanced session.source.current
    (session.router.advanced.exit? session.source.current) next := entered
  have advanced : Balanced (Delivery.Related Queue.Serves received) session.router.advanced
      samples decisions ledger :=
    accounts.balanced.advance (Delivery.follows_related Queue.keeps_serves received)
  have released := Balanced.length_owed_released advanced entry
  rw [← outlets_step] at released
  have fills := entry.fills_eq
  have work := entry.work_le
  obtain ⟨passed, _, fastAccounts⟩ := accounts.balanced.outlets.fast
  have ticked : (owed session.router.advanced.outlets.fast.stage).length ≤
      (owed session.router.outlets.fast.stage).length :=
    Normalizer.length_owed_tick_le fastAccounts
  refine ⟨next.work + next.fills - (owed session.step.1.router.outlets.fast.stage).length,
    ⟨⟨_, _, _, next, stepped, ?_⟩, orderly_step orderly⟩, ?_, ?_⟩
  · omega
  · omega
  · intro ready undone
    -- Either the normalizer has handed over an owed word, or it is idle and the router moves on.
    rcases Normalizer.length_owed_tick fastAccounts (ready .fast) with settled | fewer
    · have still : session.router.advanced = session.router := by
        have fast : Sink.tick session.router.outlets.fast = session.router.outlets.fast :=
          Normalizer.tick_of_settled settled
        rw [Router.advanced, Outlets.tick, fast]
        rfl
      rcases entry.work_lt with ⟨blocked, _⟩ | more
      · rw [still] at blocked
        have restless : ¬session.Rested := by
          intro rested
          have done := (isDone_iff settled).mpr ⟨rested, fun outlet => by cases outlet <;> rfl⟩
          exact absurd (undone.symm.trans done) (by decide)
        exact absurd blocked (accounts.not_blocked isSealed orderly ready settled restless)
      · omega
    · have filled : (owed session.router.advanced.outlets.fast.stage).length + 1 =
          (owed session.router.outlets.fast.stage).length := fewer
      omega

theorem isDone_drained (session : Session Queue) : session.drained.isDone = session.isDone := rfl

/-- The work has gone on at least once in every period. -/
def Paced (config : Config) (frames : List Frame) (period : Nat) (yield : Yield) : Prop :=
  ∃ headway, Underway config frames yield.outcome.session headway ∧
    yield.outcome.ticks ≤ period * headway

variable {period : Nat} {yield : Yield}

theorem Yield.ticks_step (period : Nat) (yield : Yield) :
    (yield.step period).outcome.ticks = yield.outcome.ticks + 1 := by
  unfold step
  split <;> rfl

/-- The drainage in front of the first tick of a period keeps the pace. -/
theorem Paced.step (isSealed : ∀ frame ∈ Delivery.proper frames, Frame.Sealed frame.words)
    (positive : 0 < period) (paced : Paced config frames period yield)
    (undone : yield.outcome.session.isDone = false) :
    Paced config frames period (yield.step period) := by
  obtain ⟨headway, underway, bound⟩ := paced
  by_cases due : yield.outcome.ticks % period = 0
  · obtain ⟨further, next, _, more⟩ := underway.drained.step isSealed
    have ahead := more underway.ready_drained ((isDone_drained _).trans undone)
    have session : (yield.step period).outcome.session =
        yield.outcome.session.drained.step.1 := by
      rw [Yield.step, if_pos due]
      rfl
    refine ⟨further, session ▸ next, ?_⟩
    rw [Yield.ticks_step]
    calc yield.outcome.ticks + 1
        ≤ period * headway + period := Nat.add_le_add bound positive
      _ = period * (headway + 1) := (Nat.mul_succ period headway).symm
      _ ≤ period * further := Nat.mul_le_mul_left period ahead
  · obtain ⟨further, next, monotone, _⟩ := underway.step isSealed
    have session : (yield.step period).outcome.session = yield.outcome.session.step.1 := by
      rw [Yield.step, if_neg due]
      rfl
    -- Within a period the ticks have not caught up with the work.
    have within : yield.outcome.ticks ≠ period * headway := by
      intro caught
      exact due (by rw [caught, Nat.mul_mod_right])
    refine ⟨further, session ▸ next, ?_⟩
    rw [Yield.ticks_step]
    exact (Nat.lt_of_le_of_ne bound within).trans_le (Nat.mul_le_mul_left period monotone)

theorem Paced.ticks_le (isSealed : ∀ frame ∈ Delivery.proper frames, Frame.Sealed frame.words)
    (paced : Paced config frames period yield) :
    yield.outcome.ticks ≤ period * Frame.workload config frames := by
  obtain ⟨headway, underway, bound⟩ := paced
  exact bound.trans (Nat.mul_le_mul_left period (underway.headway_le isSealed))

/-- A run with enough ticks before it gets done, within the bound that the workload sets. -/
theorem Paced.run (isSealed : ∀ frame ∈ Delivery.proper frames, Frame.Sealed frame.words)
    (positive : 0 < period) (limit : Nat) (paced : Paced config frames period yield)
    (enough : period * Frame.workload config frames ≤ yield.outcome.ticks + limit) :
    (Yield.run period limit yield).outcome.session.isDone = true ∧
      (Yield.run period limit yield).outcome.ticks ≤ period * Frame.workload config frames := by
  induction limit generalizing yield with
  | zero =>
      refine ⟨?_, paced.ticks_le isSealed⟩
      cases done : yield.outcome.session.isDone with
      | true => exact done
      | false =>
          -- One more step would exceed the workload.
          have further := (paced.step isSealed positive done).ticks_le isSealed
          rw [Yield.ticks_step] at further
          omega
  | succ limit ih =>
      unfold Yield.run
      cases done : yield.outcome.session.isDone with
      | true => exact ⟨done, paced.ticks_le isSealed⟩
      | false =>
          refine ih (paced.step isSealed positive done) ?_
          rw [Yield.ticks_step]
          omega

/-- Behind a run that gets done within its limit, a greater limit changes nothing. -/
theorem Yield.run_add {limit : Nat}
    (done : (Yield.run period limit yield).outcome.session.isDone = true) (extra : Nat) :
    Yield.run period (limit + extra) yield = Yield.run period limit yield := by
  induction limit generalizing yield with
  | zero =>
      cases extra with
      | zero => rfl
      | succ extra => exact if_pos done
  | succ limit ih =>
      rw [Nat.succ_add]
      unfold Yield.run at done ⊢
      split at done
      · rename_i isDone
        rw [if_pos isDone, if_pos isDone]
      · rename_i undone
        rw [if_neg undone, if_neg undone]
        exact ih done

/-- The report on a run of a session. -/
def Yield.report (yield : Yield) : Report :=
  ⟨yield.outcome.ticks, yield.departures, yield.outcome.session.router.statistics⟩

/-- With any limit from the bound on, the session gets done, and within the bound. -/
def Settles (session : Session Queue) (period bound : Nat) : Prop :=
  ∀ limit, bound ≤ limit →
    (session.runDrained period limit).outcome.session.isDone = true ∧
      (session.runDrained period limit).outcome.ticks ≤ bound

/-- From the bound on, the limit has no part in what a session that settles does. -/
theorem Settles.runDrained_eq {session : Session Queue} {bound limit : Nat}
    (settles : session.Settles period bound) (enough : bound ≤ limit) :
    session.runDrained period limit = session.runDrained period bound := by
  obtain ⟨done, _⟩ := settles bound (Nat.le_refl bound)
  obtain ⟨extra, rfl⟩ := Nat.exists_eq_add_of_le enough
  exact congrArg Yield.drain (Yield.run_add done extra)

theorem settles_of_sealed (config : Config) (depth : Nat) {frames : List Frame}
    (isSealed : ∀ frame ∈ Delivery.proper frames, Frame.Sealed frame.words)
    (positive : 0 < period) :
    ((Session.ofDepth config depth).send frames).Settles period
      (period * Frame.workload config frames) := by
  intro limit enough
  have paced : Paced config frames period
      ⟨⟨(Session.ofDepth config depth).send frames, 0, 0⟩, []⟩ :=
    ⟨0, underway_start config depth frames, Nat.zero_le _⟩
  exact paced.run isSealed positive limit (by simpa using enough)

/-- A replay gets done in front of its limit. -/
theorem settles_allowances (config : Config) (depth : Nat) {frames : List Frame}
    (isSealed : ∀ frame ∈ Delivery.proper frames, Frame.Sealed frame.words) :
    ((Session.ofDepth config depth).send frames).Settles 1 (allowances frames) := by
  have within := Frame.workload_le_allowances config frames
  have settles := settles_of_sealed config depth isSealed Nat.one_pos
  rw [Nat.one_mul] at settles
  intro limit enough
  obtain ⟨done, ticks⟩ := settles limit (within.trans enough)
  exact ⟨done, ticks.trans within⟩

/--
Over queues of any depth that are drained in front of every tick whose number
is a multiple of the period, a session gets done within the workload of its
frames, counted in periods.  The replay of a trace therefore ends, and in front
of its limit: its report is the one on the session that has got done, whatever
the limit.
-/
theorem progress (config : Config) (depth period : Nat) (positive : 0 < period) :
    (∀ lists : List (List Word),
        ((Session.ofDepth config depth).send (lists.map Frame.ofWords)).Settles period
          (period * Frame.workload config (lists.map Frame.ofWords))) ∧
      ∀ contents frames, Trace.load contents = .ok frames →
        ((Session.ofDepth config depth).send frames).Settles 1 (Frame.workload config frames) ∧
          Frame.workload config frames ≤ allowances frames ∧
          (Replay.run config depth frames).ticks ≤ Frame.workload config frames ∧
          ∀ limit, Frame.workload config frames ≤ limit →
            (((Session.ofDepth config depth).send frames).runDrained 1
                limit).outcome.session.isDone = true ∧
              Replay.run config depth frames =
                (((Session.ofDepth config depth).send frames).runDrained 1 limit).report := by
  constructor
  · intro lists
    exact settles_of_sealed config depth (fun _ => Delivery.sealed_of_proper) positive
  · intro contents frames loaded
    have isSealed : ∀ frame ∈ Delivery.proper frames, Frame.Sealed frame.words :=
      fun frame membership => Trace.sealed_of_load loaded frame (List.mem_filter.mp membership).1
    have settles := settles_of_sealed config depth isSealed Nat.one_pos
    rw [Nat.one_mul] at settles
    have within := Frame.workload_le_allowances config frames
    refine ⟨settles, within, (settles (allowances frames) within).2, ?_⟩
    intro limit enough
    refine ⟨(settles limit enough).1, ?_⟩
    rw [settles.runDrained_eq enough, ← settles.runDrained_eq within]
    rfl

/-- A trace of one packet that ends with its destination address. -/
def brief : Except FileFailure String := .ok "[\x7b\"frame\":\"020000000001\"\x7d]"

/-- Through queues of one word, drained in every third tick, both frames leave in 102 ticks. -/
theorem progress_narrow :
    let frames := [Delivery.announcement, [], Delivery.datagram].map Frame.ofWords
    let packet := Frame.ofEthernet [2, 0, 0, 0, 0, 1] 0
    0 < 3 ∧ ((Session.ofDepth Delivery.station 1).send frames).Settles 3 102 ∧
      Trace.load brief = .ok [packet] ∧ (Replay.run Delivery.station 1 [packet]).ticks ≤ 5 ∧
      (((Session.ofDepth Delivery.station 1).send [packet]).runDrained 1
          5).outcome.session.isDone = true ∧
      Replay.run Delivery.station 1 [packet] =
        (((Session.ofDepth Delivery.station 1).send [packet]).runDrained 1 5).report := by
  intro frames packet
  have positive : 0 < 3 := by decide
  have loaded : Trace.load brief = .ok [packet] := by decide +kernel
  have short : Frame.workload Delivery.station [packet] = 5 := by decide +kernel
  have bound : 3 * Frame.workload Delivery.station frames = 102 := by decide +kernel
  obtain ⟨settles, replays⟩ := progress Delivery.station 1 3 positive
  have settled := settles [Delivery.announcement, [], Delivery.datagram]
  obtain ⟨_, _, replayed, reported⟩ := replays brief [packet] loaded
  rw [bound] at settled
  rw [short] at replayed reported
  exact ⟨positive, settled, loaded, replayed, reported 5 (Nat.le_refl 5)⟩

end Session

end FrameRouter
