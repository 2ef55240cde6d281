import FrameRouter.Proofs.Engine.Core
import FrameRouter.Proofs.Engine.Draining
import FrameRouter.Proofs.Engine.Progress

/-!
# Lockstep

Two sessions over queues of different depths are drained behind every step.
They do the same in every step, with one exception: a queue of one word that
has just taken the last word owed to a frame has no room for the first word of
the next frame, which a deeper queue can take in the same tick.  One step later
both have come to the same place, and the same has come out of them.
-/

namespace FrameRouter

open Normalization

namespace Router

/-- The router when a word has been refused and all queues have been drained. -/
def delayed (router : Router Queue) : Router Queue :=
  { router.count .stall with outlets := router.outlets.emptied }

variable {first second : Router Queue} {input : Option Word} {word : Word}

/--
A word that is refused behind the last owed one leaves in the next tick, and
what comes out in both ticks would have come out in one.
-/
theorem tick_delayed (same : first.core = second.core)
    (alike : first.outlets.Alike second.outlets) (roomy : second.outlets.Roomy 1)
    (slow : second.outlets.slow.Cleared 1) (other : second.outlets.other.Cleared 1)
    (settled : owed second.outlets.fast.stage = [])
    (forwarding : first.phase = .forwarding .fast) (waiting : first.candidate? input = some word)
    (accepts : first.outlets.accepts .fast = true) :
    (first.act input).1.core = (second.delayed.tick input).1.core ∧
      (first.act input).2 = (second.delayed.tick input).2 ∧
      (first.act input).1.outlets.departing =
        second.outlets.departing ++ (second.delayed.tick input).1.outlets.departing ∧
      (first.act input).1.outlets.emptied.Alike (second.delayed.tick input).1.outlets.emptied := by
  have resumed : second.delayed.advanced = second.delayed := by
    have fast : Sink.tick second.outlets.fast.emptied = second.outlets.fast.emptied :=
      Normalizer.tick_of_settled settled
    have outlets : second.outlets.emptied.tick = second.outlets.emptied :=
      congrArg (Outlets.mk second.outlets.slow.drain.2 second.outlets.other.drain.2) fast
    exact congrArg (fun ticked => { second.delayed with outlets := ticked }) outlets
  have core : first.core = second.delayed.core := same
  have phase : second.delayed.phase = .forwarding .fast :=
    ((congrArg Router.phase core).symm.trans forwarding :)
  have waits := (candidate?_of_core core input).symm.trans waiting
  have accepted : second.delayed.outlets.accepts .fast = true :=
    Normalizer.ready_of_settled settled ((roomy.emptied .fast).ready Nat.one_pos)
  have agree : first.stalls input = second.delayed.stalls input := by
    simp [stalls, forwarding, accepts, phase, accepted]
  have ticked : second.delayed.tick input = second.delayed.act input :=
    congrArg (fun router => router.act input) resumed
  have firstOutlets : (first.act input).1.outlets = first.outlets.deliver word .fast := by
    rw [(first.act_turn input).outlets_eq, released, exit?_of_candidate forwarding waiting accepts]
  have secondOutlets : (second.delayed.act input).1.outlets =
      second.outlets.emptied.deliver word .fast := by
    rw [(second.delayed.act_turn input).outlets_eq, released,
      exit?_of_candidate phase waits accepted]
    rfl
  obtain ⟨departs, empties⟩ := Outlets.drain_deliver_fast slow other word
  obtain ⟨acts, takes⟩ := core_act core agree
  have delivered := alike.deliver word .fast
  rw [ticked, firstOutlets, secondOutlets, ← departs, ← empties]
  exact ⟨acts, takes, delivered.departing_eq, delivered.emptied⟩

end Router

namespace Session

/-- The router behind the next step. -/
def ahead (session : Session Queue) : Router Queue :=
  (session.router.tick session.source.current).1

/-- The presented word has to wait in the next step. -/
def stalls (session : Session Queue) : Bool :=
  session.router.advanced.stalls session.source.current

/-- The session behind the next step and a drainage of all queues. -/
def turned (session : Session Queue) : Session Queue := session.step.1.drained

theorem turned_eq (session : Session Queue) :
    session.turned =
      ⟨{ session.ahead with outlets := session.ahead.outlets.emptied },
        if (session.router.tick session.source.current).2 then session.source.advance
        else session.source⟩ := by
  unfold turned
  rw [step_fst]
  rfl

theorem outlets_ahead (session : Session Queue) :
    session.ahead.outlets = session.router.advanced.released session.source.current :=
  (session.router.tick_turn _).outlets_eq

/-- The sessions are at the same place, with the same words in their queues. -/
structure Alike (first second : Session Queue) : Prop where
  source : first.source = second.source
  core : first.router.core = second.router.core
  outlets : first.router.outlets.Alike second.router.outlets

/-- No word waits in a queue, and each of them has room for so many. -/
def Cleared (least : Nat) (session : Session Queue) : Prop :=
  session.router.outlets.Cleared least

variable {first second session : Session Queue} {least : Nat}

theorem Cleared.turned (cleared : session.Cleared least) : session.turned.Cleared least := by
  have ticked : session.router.advanced.outlets.Roomy least := cleared.roomy.tick
  have roomy : session.ahead.outlets.Roomy least := by
    rw [outlets_ahead, Router.released]
    split
    · exact ticked.deliver _ _
    · exact ticked
  rw [Cleared, turned_eq]
  exact roomy.emptied

theorem Alike.isDone_eq (alike : first.Alike second) : first.isDone = second.isDone := by
  have phase : first.router.phase = second.router.phase := (congrArg Router.phase alike.core :)
  have fast : Sink.isIdle first.router.outlets.fast = Sink.isIdle second.router.outlets.fast := by
    change Normalizer.isIdle _ = Normalizer.isIdle _
    unfold Normalizer.isIdle
    rw [alike.outlets.fast.stage]
    rfl
  unfold isDone Router.isIdle Outlets.isIdle
  rw [alike.source, phase, fast]
  rfl

theorem Alike.statistics_eq (alike : first.Alike second) :
    first.router.statistics.unstalled = second.router.statistics.unstalled := by
  have counters : first.router.counters.unstalled = second.router.counters.unstalled :=
    (congrArg Router.counters alike.core :)
  have completed (router : Router Queue) : router.statistics.unstalled =
      { router.counters.unstalled with
        truncations := router.outlets.fast.truncations
        extensions := router.outlets.fast.extensions } := rfl
  rw [completed, completed, counters, alike.outlets.fast.truncations,
    alike.outlets.fast.extensions]

/-- Sessions that are alike and both stall, or both do not, do the same in the next step. -/
theorem Alike.turned (alike : first.Alike second) (firstCleared : first.Cleared 1)
    (secondCleared : second.Cleared 1) (agree : first.stalls = second.stalls) :
    first.turned.Alike second.turned ∧
      first.ahead.outlets.departing = second.ahead.outlets.departing := by
  obtain ⟨source, core, outlets⟩ := alike
  have advanced : first.router.advanced.core = second.router.advanced.core := core
  have ticked : first.router.advanced.outlets.Alike second.router.advanced.outlets :=
    outlets.tick firstCleared secondCleared
  unfold stalls at agree
  rw [source] at agree
  obtain ⟨acts, takes⟩ := Router.core_act advanced agree
  have exits := Router.exit?_of_core advanced agree
  have ahead : first.ahead.outlets.Alike second.ahead.outlets := by
    rw [outlets_ahead, outlets_ahead, Router.released, Router.released, source, exits]
    split
    · exact ticked.deliver _ _
    · exact ticked
  refine ⟨?_, ahead.departing_eq⟩
  rw [turned_eq, turned_eq]
  unfold Session.ahead at ahead ⊢
  rw [source] at ahead ⊢
  constructor
  · exact congrArg (fun taken => if taken = true then _ else _) takes
  · exact acts
  · exact ahead.emptied

/--
If the wider queues accept a word that the narrower ones refuse, the narrower
session makes up for it with one more step.
-/
theorem Alike.turned_turned (alike : first.Alike second) (firstCleared : first.Cleared 2)
    (secondCleared : second.Cleared 1) (differ : first.stalls ≠ second.stalls) :
    second.turned.isDone = false ∧ first.turned.Alike second.turned.turned ∧
      first.ahead.outlets.departing =
        second.ahead.outlets.departing ++ second.turned.ahead.outlets.departing := by
  obtain ⟨source, core, outlets⟩ := alike
  have same : first.router.advanced.core = second.router.advanced.core := core
  have ticked : first.router.advanced.outlets.Alike second.router.advanced.outlets :=
    outlets.tick (firstCleared.mono one_le_two) secondCleared
  unfold stalls at differ
  rw [source] at differ
  obtain ⟨route, word, forwarding, waiting, disagree⟩ := Router.exists_waiting_of_core same differ
  rcases outlets.accepts_tick firstCleared secondCleared route with agree | ⟨rfl, accepts, settled⟩
  · exact absurd agree disagree
  have refuses : second.router.advanced.outlets.accepts .fast = false :=
    Bool.eq_false_of_not_eq_true fun accepted => disagree (accepts.trans accepted.symm)
  have phase : second.router.advanced.phase = .forwarding .fast :=
    ((congrArg Router.phase same).symm.trans forwarding :)
  have waits := (Router.candidate?_of_core same _).symm.trans waiting
  -- The narrower session stalls, so only its queues are drained.
  have stalled : second.router.tick second.source.current =
      (second.router.advanced.count .stall, false) :=
    (Router.Turn.stall _ _ _ phase waits refuses).act_eq
  have between : second.turned = ⟨second.router.advanced.delayed, second.source⟩ := by
    rw [turned_eq, Session.ahead, stalled]
    rfl
  have departed : second.ahead.outlets = second.router.advanced.outlets := by
    rw [Session.ahead, stalled]
    rfl
  obtain ⟨acts, takes, departs, empties⟩ := Router.tick_delayed same ticked
    secondCleared.roomy.tick (secondCleared .slow) (secondCleared .other) settled forwarding waiting
    accepts
  have acted : first.router.tick first.source.current =
      first.router.advanced.act second.source.current := by
    rw [source]
    rfl
  refine ⟨?_, ?_, ?_⟩
  · have busy : second.router.advanced.delayed.phase = .forwarding .fast := phase
    rw [between]
    simp [isDone, Router.isIdle, busy]
  · rw [turned_eq, turned_eq, Session.ahead, Session.ahead, acted, source, between]
    constructor
    · exact congrArg (fun taken => if taken = true then _ else _) takes
    · exact acts
    · exact empties
  · rw [departed, Session.ahead, Session.ahead, acted, between]
    exact departs

namespace Yield

/-- One step, behind which all queues are drained. -/
def turn (yield : Yield) : Yield := drain { yield with outcome := yield.outcome.step }

/-- Step until done, but at most so many times more, and drain all queues behind every step. -/
def serve : Nat → Yield → Yield
  | 0, yield => yield
  | limit + 1, yield => if yield.outcome.session.isDone then yield else serve limit yield.turn

theorem drain_step (yield : Yield) : (yield.step 1).drain = yield.drain.turn := by
  unfold step
  rw [if_pos (Nat.mod_one _)]
  rfl

/-- A drainage in front of every step and one in the end come to a drainage behind every step. -/
theorem drain_run (limit : Nat) (yield : Yield) :
    (run 1 limit yield).drain = serve limit yield.drain := by
  induction limit generalizing yield with
  | zero => rfl
  | succ limit ih =>
      have done : yield.drain.outcome.session.isDone = yield.outcome.session.isDone :=
        isDone_drained yield.outcome.session
      unfold run serve
      rw [done]
      split
      · rfl
      · rw [ih, drain_step]

theorem departures_turn (yield : Yield) :
    yield.turn.departures =
      yield.departures ++ yield.outcome.session.ahead.outlets.departing := by
  have drained : yield.turn.departures =
      yield.departures ++ yield.outcome.session.step.1.router.outlets.departing := rfl
  rw [drained, step_fst]
  rfl

/-- The sessions are alike, and the same has come out of them. -/
structure Alike (first second : Yield) : Prop where
  session : first.outcome.session.Alike second.outcome.session
  departures : first.departures = second.departures

variable {first second yield : Yield}

/-- Where a session over queues of two words or more makes one step, any other makes one or two. -/
theorem Alike.turn (alike : first.Alike second) (firstCleared : first.outcome.session.Cleared 2)
    (secondCleared : second.outcome.session.Cleared 1) :
    first.turn.Alike second.turn ∨
      second.turn.outcome.session.isDone = false ∧ first.turn.Alike second.turn.turn := by
  obtain ⟨session, departures⟩ := alike
  by_cases agree : first.outcome.session.stalls = second.outcome.session.stalls
  · left
    obtain ⟨same, departing⟩ := session.turned (firstCleared.mono one_le_two) secondCleared agree
    refine ⟨same, ?_⟩
    rw [departures_turn, departures_turn, departures, departing]
  · right
    obtain ⟨undone, later, departing⟩ := session.turned_turned firstCleared secondCleared agree
    refine ⟨undone, later, ?_⟩
    rw [departures_turn, departures_turn, departures_turn, departures, departing,
      List.append_assoc]
    rfl

theorem serve_of_isDone (done : yield.outcome.session.isDone = true) (limit : Nat) :
    serve limit yield = yield := by
  cases limit with
  | zero => rfl
  | succ limit => rw [serve, if_pos done]

theorem serve_succ (undone : yield.outcome.session.isDone = false) (limit : Nat) :
    serve (limit + 1) yield = serve limit yield.turn := by
  rw [serve, undone]
  rfl

/-- Sessions that are alike are alike when both are done. -/
theorem Alike.serve (alike : first.Alike second) (firstCleared : first.outcome.session.Cleared 2)
    (secondCleared : second.outcome.session.Cleared 1) {firstLimit secondLimit : Nat}
    (firstDone : (Yield.serve firstLimit first).outcome.session.isDone = true)
    (secondDone : (Yield.serve secondLimit second).outcome.session.isDone = true) :
    (Yield.serve firstLimit first).Alike (Yield.serve secondLimit second) := by
  -- The wider session makes one step at a time, and the narrower one keeps up with it.
  induction firstLimit generalizing first second secondLimit with
  | zero =>
      have done : second.outcome.session.isDone = true := alike.session.isDone_eq ▸ firstDone
      rw [serve_of_isDone done]
      exact alike
  | succ firstLimit ih =>
      have same := alike.session.isDone_eq
      cases done : second.outcome.session.isDone with
      | true =>
          rw [serve_of_isDone done, serve_of_isDone (same.trans done)]
          exact alike
      | false =>
          rw [serve_succ (same.trans done)] at firstDone ⊢
          cases secondLimit with
          | zero => exact absurd (done.symm.trans secondDone) (by decide)
          | succ secondLimit =>
              rw [serve_succ done] at secondDone ⊢
              rcases alike.turn firstCleared secondCleared with next | ⟨undone, later⟩
              · exact ih next firstCleared.turned secondCleared.turned firstDone secondDone
              · cases secondLimit with
                | zero => exact absurd (undone.symm.trans secondDone) (by decide)
                | succ secondLimit =>
                    rw [serve_succ undone] at secondDone ⊢
                    exact ih later firstCleared.turned secondCleared.turned.turned firstDone
                      secondDone

/-- In front of the first step of a session over queues of the given depth. -/
def start (config : Config) (depth : Nat) (frames : List Frame) : Yield :=
  drain ⟨⟨(Session.ofDepth config depth).send frames, 0, 0⟩, []⟩

theorem cleared_start (config : Config) (depth : Nat) (frames : List Frame) :
    (start config depth frames).outcome.session.Cleared (max depth 1) := by
  intro outlet
  cases outlet <;> exact ⟨rfl, Nat.le_refl _⟩

theorem alike_start (config : Config) (first second : Nat) (frames : List Frame) :
    (start config first frames).Alike (start config second frames) :=
  ⟨⟨rfl, rfl, ⟨⟨rfl, rfl⟩, ⟨rfl, rfl⟩, ⟨⟨rfl, rfl⟩, rfl, rfl, rfl⟩⟩⟩, rfl⟩

end Yield

end Session

end FrameRouter
