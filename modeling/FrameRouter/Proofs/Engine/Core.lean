import FrameRouter.Proofs.Engine.Turn

/-!
# Routers without their outlets

Of its outlets a router sees only whether they can take the word that waits.
Two routers that differ in their outlets, and in how often a word had to wait,
do the same with the same word, as long as it has to wait in both or in none.
-/

namespace FrameRouter

/-- The counters without the ticks in which a word had to wait. -/
def Statistics.unstalled (s : Statistics) : Statistics := { s with stallTicks := 0 }

namespace Router

variable {S F T G : Type}

/-- The router without its outlets and without what it has counted of waiting words. -/
def core (router : Router S F) : Router Unit Unit where
  config := router.config
  classification := router.classification
  ring := router.ring
  outlets := ⟨(), (), ()⟩
  phase := router.phase
  capturedLast := router.capturedLast
  frameWords := router.frameWords
  counters := router.counters.unstalled

theorem core_capture (router : Router S F) (word : Word) :
    (router.capture word).core = router.core.capture word := rfl

theorem core_cleared (router : Router S F) : router.cleared.core = router.core.cleared := rfl

theorem core_rested (router : Router S F) : router.rested.core = router.core.rested := rfl

theorem core_decide (router : Router S F) : router.decide.core = router.core.decide := by
  have routed (counters : Statistics) (route : Route) :
      (counters.count (.routed route)).unstalled = counters.unstalled.count (.routed route) := by
    cases route <;> rfl
  unfold core decide
  simp only [routed]
  split <;> rfl

variable {first : Router S F} {second : Router T G}

/-- The same word waits in routers of one core. -/
theorem candidate?_of_core (same : first.core = second.core) (input : Option Word) :
    first.candidate? input = second.candidate? input := by
  have ring : first.ring = second.ring := congrArg Router.ring same
  rw [candidate?, ring, candidate?]

variable [Sink S] [Sink F] [Sink T] [Sink G]

theorem core_replayed (same : first.core = second.core) (route : Route) (word : Word) :
    (first.replayed route word).core = (second.replayed route word).core :=
  congrArg (fun core => { core with ring := core.ring.pop }) same

theorem core_passed (same : first.core = second.core) (route : Route) (word : Word) :
    (first.passed route word).core = (second.passed route word).core :=
  congrArg
    (fun core =>
      { core with
        frameWords := core.frameWords + 1
        phase := if word.last then .idle else core.phase
        counters := core.counters.count .word })
    same

/-- Routers of one core do the same, as long as both stall or both do not. -/
theorem core_act (same : first.core = second.core) {input : Option Word}
    (agree : first.stalls input = second.stalls input) :
    (first.act input).1.core = (second.act input).1.core ∧
      (first.act input).2 = (second.act input).2 := by
  have phase : first.phase = second.phase := congrArg Router.phase same
  have ring : first.ring = second.ring := congrArg Router.ring same
  have waits := candidate?_of_core same input
  have turn := first.act_turn input
  generalize first.act input = result at turn ⊢
  obtain ⟨after, accepted⟩ := result
  change Turn first input after accepted at turn
  have moves {route : Route} {word : Word} (forwarding : first.phase = .forwarding route)
      (waiting : first.candidate? input = some word)
      (accepts : first.outlets.accepts route = true) :
      second.outlets.accepts route = true := by
    refine accepts_of_not_stalls (phase ▸ forwarding) (waits ▸ waiting) ?_
    rw [← agree]
    simp [stalls, forwarding, accepts]
  cases turn with
  | rest undecided nothing =>
      have still : Turn second none second false :=
        .rest (phase ▸ undecided) (phase ▸ ring ▸ nothing)
      rw [still.act_eq]
      exact ⟨same, rfl⟩
  | begin word idle =>
      rw [(Turn.begin word (phase ▸ idle)).act_eq, core_capture, core_capture, core_cleared,
        core_cleared, same]
      exact ⟨rfl, rfl⟩
  | capture word capturing =>
      rw [(Turn.capture word (phase ▸ capturing)).act_eq, core_capture, core_capture, same]
      exact ⟨rfl, rfl⟩
  | decide input deciding =>
      rw [(Turn.decide input (phase ▸ deciding)).act_eq, core_decide, core_decide, same]
      exact ⟨rfl, rfl⟩
  | stall input route word forwarding waiting refused =>
      rw [stalls_of_refused forwarding waiting refused] at agree
      obtain ⟨taken, held, forwards, holds, refuses⟩ := of_stalls agree.symm
      rw [(Turn.stall input taken held forwards holds refuses).act_eq]
      exact ⟨same, rfl⟩
  | replay input route word forwarding front accepts inside =>
      have accepts := moves forwarding (candidate?_of_front input front) accepts
      rw [(Turn.replay input route word (phase ▸ forwarding) (ring ▸ front) accepts inside).act_eq]
      exact ⟨core_replayed same route word, rfl⟩
  | finish route word forwarding front accepts ended =>
      have accepts := moves forwarding (candidate?_of_front none front) accepts
      rw [(Turn.finish route word (phase ▸ forwarding) (ring ▸ front) accepts ended).act_eq,
        core_rested, core_rested, core_replayed same route word]
      exact ⟨rfl, rfl⟩
  | exchange route word next forwarding front accepts ended =>
      have accepts := moves forwarding (candidate?_of_front _ front) accepts
      rw [(Turn.exchange route word next (phase ▸ forwarding) (ring ▸ front) accepts ended).act_eq,
        core_capture, core_capture, core_cleared, core_cleared, core_rested, core_rested,
        core_replayed same route word]
      exact ⟨rfl, rfl⟩
  | pass route word forwarding empty accepts =>
      have accepts := moves forwarding (candidate?_of_empty _ empty) accepts
      rw [(Turn.pass route word (phase ▸ forwarding) (ring ▸ empty) accepts).act_eq]
      exact ⟨core_passed same route word, rfl⟩

/-- The same word leaves from routers of one core, if both stall or both do not. -/
theorem exit?_of_core (same : first.core = second.core) {input : Option Word}
    (agree : first.stalls input = second.stalls input) :
    first.exit? input = second.exit? input := by
  have phase : first.phase = second.phase := congrArg Router.phase same
  have waits := candidate?_of_core same input
  unfold exit?
  unfold stalls at agree
  rw [← phase, ← waits] at agree ⊢
  generalize first.phase = stands, first.candidate? input = waiting at agree ⊢
  cases stands with
  | forwarding route =>
      cases waiting with
      | none => simp
      | some word =>
          have accepts : first.outlets.accepts route = second.outlets.accepts route := by
            simpa using agree
          simp only [accepts]
  | _ => rfl

/-- Routers of one core of which only one stalls disagree about a word that waits. -/
theorem exists_waiting_of_core (same : first.core = second.core) {input : Option Word}
    (differ : first.stalls input ≠ second.stalls input) :
    ∃ route word, first.phase = .forwarding route ∧ first.candidate? input = some word ∧
      first.outlets.accepts route ≠ second.outlets.accepts route := by
  have phase : first.phase = second.phase := congrArg Router.phase same
  have waits := candidate?_of_core same input
  unfold stalls at differ
  rw [← phase, ← waits] at differ
  cases stands : first.phase with
  | forwarding route =>
      cases waiting : first.candidate? input with
      | none => simp [stands, waiting] at differ
      | some word =>
          refine ⟨route, word, rfl, rfl, ?_⟩
          intro accepts
          simp [stands, accepts] at differ
  | _ => simp [stands] at differ

end Router

end FrameRouter
