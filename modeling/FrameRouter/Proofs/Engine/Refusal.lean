import FrameRouter.Proofs.Engine.Ledger
import FrameRouter.Sink.Scripted

/-!
# Refused words

A word that is not accepted leaves no trace but in the count of stalled ticks:
the tick that refuses it is the tick without an offered word, and whatever
happens later happens as if the word had never been offered.
-/

namespace FrameRouter

/-- The counters with some more stalled ticks. -/
def Statistics.held (s : Statistics) (ticks : Nat) : Statistics :=
  { s with stallTicks := s.stallTicks + ticks }

/-- Events are counted besides the additional stalled ticks. -/
theorem Statistics.count_held (s : Statistics) (ticks : Nat) (event : Event) :
    (s.held ticks).count event = (s.count event).held ticks := by
  cases event with
  | stall => simp only [held, count, Nat.add_right_comm]
  | routed route => cases route <;> rfl
  | _ => rfl

namespace Router

variable {S F : Type}

/-- The router with some more stalled ticks counted. -/
def held (router : Router S F) (ticks : Nat) : Router S F :=
  { router with counters := router.counters.held ticks }

theorem held_zero (router : Router S F) : router.held 0 = router := rfl

theorem count_stall (router : Router S F) : router.count .stall = router.held 1 := rfl

/-- A decision does not depend on what has been counted. -/
theorem decide_held (router : Router S F) (ticks : Nat) :
    (router.held ticks).decide = router.decide.held ticks := by
  unfold Router.decide
  have same : (router.held ticks).counters = router.counters.held ticks := rfl
  cases short : router.capturedLast && router.classification.isShort with
  | true => simp [held, short, Statistics.count_held]
  | false => simp [held, short, Statistics.count_held]

variable [Sink S] [Sink F]

/-- No turn depends on what has been counted. -/
theorem Turn.held {router after : Router S F} {input : Option Word} {accepted : Bool}
    (turn : Turn router input after accepted) (ticks : Nat) :
    Turn (router.held ticks) input (after.held ticks) accepted := by
  cases turn with
  | rest undecided nothing => exact .rest undecided nothing
  | begin word idle => exact .begin word idle
  | capture word capturing => exact .capture word capturing
  | decide input deciding =>
      rw [← router.decide_held]
      exact .decide input deciding
  | stall input route word forwarding waiting refused =>
      have counted : (router.count .stall).held ticks = (router.held ticks).count .stall := by
        simp only [count, Router.held, Statistics.count_held]
      rw [counted]
      exact .stall input route word forwarding waiting refused
  | replay input route word forwarding front accepts inside =>
      exact .replay input route word forwarding front accepts inside
  | finish route word forwarding front accepts ended =>
      exact .finish route word forwarding front accepts ended
  | exchange route word next forwarding front accepts ended =>
      exact .exchange route word next forwarding front accepts ended
  | pass route word forwarding empty accepts => exact .pass route word forwarding empty accepts

theorem tick_held (router : Router S F) (ticks : Nat) (input : Option Word) :
    (router.held ticks).tick input =
      ((router.tick input).1.held ticks, (router.tick input).2) :=
  ((router.tick_turn input).held ticks).act_eq

/-- The stalled ticks that a refused word brings about: no captured word waits in front of it. -/
def surplus (router : Router S F) (word : Word) : Nat :=
  if router.stalls (some word) && !router.stalls none then 1 else 0

theorem surplus_le (router : Router S F) (word : Word) : router.surplus word ≤ 1 := by
  unfold surplus
  split
  · exact Nat.le_refl 1
  · exact Nat.zero_le 1

/-- The tick is counted as stalled for the sake of the offered word in pass-through only. -/
theorem surplus_eq_one_iff (router : Router S F) (word : Word) :
    router.surplus word = 1 ↔ ∃ route, router.phase = .forwarding route ∧
      router.ring.front? = none ∧ router.outlets.accepts route = false := by
  unfold surplus
  constructor
  · intro counted
    split at counted
    · rename_i stalled
      obtain ⟨stalls, free⟩ := Bool.and_eq_true_iff.mp stalled
      obtain ⟨route, waiting, forwarding, _, refused⟩ := of_stalls stalls
      refine ⟨route, forwarding, ?_, refused⟩
      cases front : router.ring.front? with
      | none => rfl
      | some captured =>
          have held := stalls_of_refused forwarding (candidate?_of_front none front) refused
          simp [held] at free
    · cases counted
  · rintro ⟨route, forwarding, empty, refused⟩
    have stalls := stalls_of_refused forwarding (candidate?_of_empty (some word) empty) refused
    have free : router.stalls none = false := by
      simp [Router.stalls, forwarding, candidate?_of_empty none empty]
    simp [stalls, free]

/-- A turn that refuses a word is the turn without it, up to a stalled tick. -/
structure Refuses (router : Router S F) (word : Word) (after : Router S F) : Prop where
  state : ∃ resting, Turn router none resting false ∧ after = resting.held (router.surplus word)
  exit : router.exit? (some word) = router.exit? none

theorem Turn.refuses {router after : Router S F} {word : Word}
    (turn : Turn router (some word) after false) : router.Refuses word after := by
  cases turn with
  | decide _ deciding =>
      have still (input : Option Word) : router.exit? input = none :=
        exit?_of_phase input (by simp [deciding])
      have free : router.surplus word = 0 := by simp [surplus, stalls, deciding]
      refine ⟨⟨router.decide, .decide none deciding, ?_⟩, by rw [still, still]⟩
      rw [free, held_zero]
  | stall _ route leaving forwarding waiting refused =>
      refine ⟨?_, ?_⟩
      · cases front : router.ring.front? with
        | some captured =>
            -- The captured word in front waits in any case, so the tick is counted once either way.
            have waits := candidate?_of_front none front
            have stalls := stalls_of_refused forwarding waits refused
            have free : router.surplus word = 0 := by simp [surplus, stalls]
            refine ⟨_, .stall none route captured forwarding waits refused, ?_⟩
            rw [free, held_zero]
        | none =>
            have counted := (router.surplus_eq_one_iff word).mpr ⟨route, forwarding, front, refused⟩
            refine ⟨router, .rest (by simp [forwarding]) (fun _ _ => front), ?_⟩
            rw [counted, count_stall]
      · rw [(Blocked.stall (some word) route forwarding refused).exit?_eq,
          (Blocked.stall none route forwarding refused).exit?_eq]
  | replay _ route leaving forwarding front accepts inside =>
      have free : router.surplus word = 0 := by simp [surplus, stalls, forwarding, accepts]
      refine ⟨⟨_, .replay none route leaving forwarding front accepts inside, ?_⟩, ?_⟩
      · rw [free, held_zero]
      · rw [exit?_of_candidate forwarding (candidate?_of_front _ front) accepts,
          exit?_of_candidate forwarding (candidate?_of_front _ front) accepts]

end Router

namespace Run

variable {S F : Type}

/--
Nothing but the count of stalled ticks tells the runs apart: not the router,
not the accepted words, not the decisions, not the words that have left.
-/
structure Unmarked [Sink S] [Sink F] (ticks : Nat) (run other : Run S F) : Prop where
  router : other.router = run.router.held ticks
  samples : other.samples = run.samples
  decisions : other.decisions = run.decisions
  exits : other.exits = run.exits

variable [Sink S] [Sink F] {ticks : Nat} {run other : Run S F}

/-- The same tick keeps the runs alike. -/
theorem Unmarked.tick (unmarked : Unmarked ticks run other) (input : Option Word) :
    Unmarked ticks (run.act (.tick input)) (other.act (.tick input)) := by
  have sample : (Beat.mk other.router input).sample? = (Beat.mk run.router input).sample? := by
    simp only [Beat.sample?, unmarked.router, Router.tick_held]
    rfl
  have decision : (Beat.mk other.router input).decision? =
      (Beat.mk run.router input).decision? := by
    simp only [Beat.decision?, unmarked.router, Router.tick_held]
    rfl
  have exit : (Beat.mk other.router input).exit? = (Beat.mk run.router input).exit? := by
    simp only [Beat.exit?, unmarked.router]
    rfl
  constructor
  · simp only [Run.act, unmarked.router, Router.tick_held]
  · rw [samples_tick, samples_tick, sample, unmarked.samples]
  · rw [decisions_tick, decisions_tick, decision, unmarked.decisions]
  · rw [exits_tick, exits_tick, exit, unmarked.exits]

/-- The same action keeps the runs alike. -/
theorem Unmarked.act (unmarked : Unmarked ticks run other) (action : Action S F) :
    Unmarked ticks (run.act action) (other.act action) := by
  obtain ⟨router, beats⟩ := run
  obtain ⟨_, otherBeats⟩ := other
  obtain ⟨rfl, samples, decisions, exits⟩ := unmarked
  cases action with
  | tick input => exact Unmarked.tick ⟨rfl, samples, decisions, exits⟩ input
  | write address value =>
      simp only [Run.act, Router.write, Router.held]
      cases router.config.write address value with
      | ok config => exact ⟨rfl, samples, decisions, exits⟩
      | error fault => exact ⟨rfl, samples, decisions, exits⟩
  | replace config => exact ⟨rfl, samples, decisions, exits⟩
  | slow change => exact ⟨rfl, samples, decisions, exits⟩
  | other change => exact ⟨rfl, samples, decisions, exits⟩
  | fast change => exact ⟨rfl, samples, decisions, exits⟩

theorem Unmarked.foldl (unmarked : Unmarked ticks run other) (actions : List (Action S F)) :
    Unmarked ticks (actions.foldl Run.act run) (actions.foldl Run.act other) := by
  induction actions generalizing run other with
  | nil => exact unmarked
  | cons action actions ih => exact ih (unmarked.act action)

/-- The tick that refuses a word is the tick without an offered word. -/
theorem unmarked_of_refused (run : Run S F) (word : Word)
    (refused : (run.router.tick (some word)).2 = false) :
    Unmarked (run.router.advanced.surplus word) (run.act (.tick none))
      (run.act (.tick (some word))) := by
  have turn := run.router.tick_turn (some word)
  rw [refused] at turn
  obtain ⟨⟨resting, rest, after⟩, exit⟩ := turn.refuses
  have quiet : run.router.tick none = (resting, false) := rest.act_eq
  have decision : (Beat.mk run.router (some word)).decision? =
      (Beat.mk run.router none).decision? := by
    simp only [Beat.decision?, after, quiet]
    rfl
  constructor
  · simp only [Run.act, after, quiet]
  · simp [Beat.sample?, Router.sampled?, refused, quiet]
  · rw [decisions_tick, decisions_tick, decision]
  · rw [exits_tick, exits_tick, Beat.exit?, Beat.exit?, exit]

/--
A refused word leaves no trace, in whatever state it is offered.  The tick is
the one without it, except that a stalled tick is counted if the word was the
only one to wait, and so is everything that happens later.
-/
theorem refusal (run : Run S F) (word : Word)
    (refused : (run.router.tick (some word)).2 = false) :
    (run.router.tick none).2 = false ∧
      ∃ ticks ≤ 1, (run.router.tick (some word)).1 = (run.router.tick none).1.held ticks ∧
        (ticks = 1 ↔ ∃ route, run.router.phase = .forwarding route ∧
          run.router.ring.front? = none ∧ run.router.outlets.tick.accepts route = false) ∧
        ∀ actions : List (Action S F),
          Unmarked ticks (actions.foldl act (run.act (.tick none)))
            (actions.foldl act (run.act (.tick (some word)))) := by
  have unmarked := run.unmarked_of_refused word refused
  have turn := run.router.tick_turn none
  refine ⟨?_, _, run.router.advanced.surplus_le word, unmarked.router,
    run.router.advanced.surplus_eq_one_iff word, fun actions => unmarked.foldl actions⟩
  generalize run.router.tick none = ticked at turn ⊢
  obtain ⟨after, accepted⟩ := ticked
  cases turn <;> rfl

/-- The slow outlet pauses in one tick, the one behind a replayed header. -/
def pausing : Outlets ScriptedSink :=
  .ofSinks (.ofSchedule (.cycle (List.replicate 26 true ++ [false]))) (.ofSchedule .always)
    (.ofSchedule .always)

/-- A frame for every station whose header has been replayed to the slow outlet. -/
def replayedHeader : Run ScriptedSink (Normalizer ScriptedSink) :=
  play (.ofOutlets .default pausing)
    (List.replicate 25 (.tick (some (.full 0xffffffff))))

/-- The pausing outlet refuses a live word; offered again it goes through. -/
theorem refusal_pausing :
    let word : Word := .terminal 0 4
    let resting := replayedHeader.act (.tick none)
    let marked := replayedHeader.act (.tick (some word))
    (replayedHeader.router.tick (some word)).2 = false ∧
      marked.router.counters.stallTicks = resting.router.counters.stallTicks + 1 ∧
      (marked.act (.tick (some word))).exits.length = 13 ∧
      (∃ ticks ≤ 1, marked.router = resting.router.held ticks ∧
        Unmarked ticks (resting.act (.tick (some word))) (marked.act (.tick (some word)))) := by
  intro word resting marked
  have refused : (replayedHeader.router.tick (some word)).2 = false := by decide +kernel
  obtain ⟨_, ticks, bounded, state, _, later⟩ := refusal replayedHeader word refused
  exact ⟨refused, by decide +kernel, by decide +kernel, ticks, bounded, state,
    later [.tick (some word)]⟩

end Run

end FrameRouter
