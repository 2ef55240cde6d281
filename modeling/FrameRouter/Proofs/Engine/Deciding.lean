import FrameRouter.Proofs.Engine.Ledger
import FrameRouter.Proofs.Routing.Reference
import FrameRouter.Sink.Scripted

/-!
# Decisions

Every accepted frame is decided once, and in the way of the reference route:
by its header words, by the configurations that met these words one by one,
and by the policy in force in the tick of the decision.
-/

namespace FrameRouter

open Cutting

namespace Run

variable {S F : Type} [Sink S] [Sink F]

/-- The accepted words with their configurations, cut into frames. -/
def sampled (run : Run S F) : List (List Sample) := pieces Sample.ends run.samples

/-- How many of the frames still wait for their decision. -/
def undecided (run : Run S F) : Nat :=
  match run.router.phase with
  | .capturing | .deciding => 1
  | _ => 0

/-- A frame, and the decision at the same place among the decisions. -/
def Decided (run : Run S F) (frame : List Sample) (decision : Decision) : Prop :=
  ∃ place : Nat, run.sampled[place]? = some frame ∧ run.decisions[place]? = some decision

/-- Every frame is decided, the newest one perhaps later, and by the reference route. -/
structure Exact (run : Run S F) : Prop where
  counted : run.sampled.length = run.decisions.length + run.undecided
  decided : ∀ frame decision, run.Decided frame decision →
    decision.route = Route.reference frame decision.policy

end Run

theorem Router.Flight.decided {S F : Type} {router : Router S F} {samples : List Sample}
    {decision : Decision} {moved : List Word}
    (flight : router.Flight samples (some decision) moved) :
    decision.route = Route.decide (.ofSamples samples) decision.policy := by
  cases flight with
  | forwarding forwarded => exact forwarded.decided

namespace Balanced

variable {S F : Type} [Sink S] [Sink F]
  {relation : Outlets S F → (Outlet → List Word) → Prop} {run : Run S F} {ledger : Ledger}

/-- Every decision in the books is that of the reference route. -/
theorem reference
    (balanced : Balanced relation run.router run.samples run.decisions ledger)
    {frame : List Sample} {decision : Decision} (decided : run.Decided frame decision) :
    decision.route = Route.reference frame decision.policy := by
  obtain ⟨place, frameAt, decisionAt⟩ := decided
  rw [Run.sampled, balanced.pieces] at frameAt
  rw [balanced.records.decisions] at decisionAt
  rw [← Route.decide_ofSamples]
  rcases Nat.lt_or_ge place ledger.passages.length with left | here
  · rw [List.getElem?_append_left (by simpa using left), List.getElem?_map] at frameAt decisionAt
    obtain ⟨passage, found, rfl⟩ := Option.map_eq_some_iff.mp frameAt
    rw [found] at decisionAt
    cases decisionAt
    exact (balanced.records.sound passage (List.mem_of_getElem? found)).decided
  · rw [List.getElem?_append_right (by simpa using here)] at frameAt decisionAt
    have current : frame = ledger.current := by
      have membership := List.mem_of_getElem? frameAt
      split at membership
      · cases membership
      · exact List.mem_singleton.mp membership
    have made : ledger.decision = some decision := by
      have membership := List.mem_of_getElem? decisionAt
      exact Option.mem_toList.mp membership
    rw [current]
    exact (made ▸ balanced.flight).decided

/-- A frame is undecided exactly in the two phases before its decision. -/
theorem counted
    (balanced : Balanced relation run.router run.samples run.decisions ledger) :
    run.sampled.length = run.decisions.length + run.undecided := by
  rw [Run.sampled, balanced.pieces, balanced.records.decisions, Run.undecided]
  have made : ledger.decision.toList.length = run.router.phase.route?.toList.length := by
    rw [balanced.flight.route?_eq, Option.toList_map, List.length_map]
  rw [List.length_append, List.length_append, made, List.length_map, List.length_map]
  cases run.router.phase <;> rfl

end Balanced

/-- No relation to the sinks is needed to know what a router decides. -/
theorem Follows.trivial {S F : Type} [Sink S] [Sink F] :
    Follows fun (_ : Outlets S F) (_ : Outlet → List Word) => True where
  deliver := fun _ _ _ _ => True.intro
  tick := fun _ => True.intro

/-- Whatever the sinks do, some ledger accounts for the accepted words and the decisions. -/
theorem Run.accounted {S F : Type} [Sink S] [Sink F] (config : Config) (outlets : Outlets S F)
    (actions : List (Action S F)) :
    ∃ ledger, Balanced (fun _ _ => True) (Run.play (.ofOutlets config outlets) actions).router
      (Run.play (.ofOutlets config outlets) actions).samples
      (Run.play (.ofOutlets config outlets) actions).decisions ledger := by
  have keeps : ∀ action ∈ actions, action.Keeps fun _ _ => True := by
    intro action _
    cases action with
    | tick => trivial
    | write => trivial
    | replace => trivial
    | slow => exact fun _ _ _ => True.intro
    | other => exact fun _ _ _ => True.intro
    | fast => exact fun _ _ _ => True.intro
  exact Run.balanced Follows.trivial config True.intro actions keeps

theorem Run.exact_play {S F : Type} [Sink S] [Sink F] (config : Config) (outlets : Outlets S F)
    (actions : List (Action S F)) : (Run.play (.ofOutlets config outlets) actions).Exact := by
  obtain ⟨ledger, balanced⟩ := Run.accounted config outlets actions
  exact ⟨balanced.counted, fun _ _ decided => balanced.reference decided⟩

/--
Every decision of every run is exact.  Frames that look alike at the places of
the header, in one run or in two, leave by the same route under the same policy.
-/
theorem Run.decision_exact {S T : Type} [Sink S] [Sink T] (config otherConfig : Config)
    (outlets : Outlets S) (otherOutlets : Outlets T) (actions : List (Action S (Normalizer S)))
    (otherActions : List (Action T (Normalizer T))) :
    (Run.play (.ofOutlets config outlets) actions).Exact ∧
      ∀ frame otherFrame decision otherDecision,
        (Run.play (.ofOutlets config outlets) actions).Decided frame decision →
        (Run.play (.ofOutlets otherConfig otherOutlets) otherActions).Decided otherFrame
          otherDecision →
        Header.Alike frame otherFrame → decision.policy = otherDecision.policy →
        decision.route = otherDecision.route := by
  have exact := Run.exact_play config outlets actions
  have otherExact := Run.exact_play otherConfig otherOutlets otherActions
  refine ⟨exact, ?_⟩
  intro frame otherFrame decision otherDecision decided otherDecided alike policy
  rw [exact.decided frame decision decided, otherExact.decided otherFrame _ otherDecided, policy]
  exact Route.reference_congr alike otherDecision.policy

namespace Run

/-- Outlets that are always ready. -/
def attentive : Outlets ScriptedSink :=
  .ofSinks (.ofSchedule .always) (.ofSchedule .always) (.ofSchedule .always)

/-- The first station behind the change of its address. -/
def moved : Config := { Config.default with mac := ⟨0x0200, 7⟩ }

/-- The address changes between the two words in which a frame names its station. -/
def moving : Run ScriptedSink (Normalizer ScriptedSink) :=
  play (.ofOutlets .default attentive)
    [.tick (some (.full 0x0200)), .write 1 7, .tick (some (.terminal 7 4)), .tick none]

/-- A frame that looks alike meets the changed address from the start. -/
def steady : Run ScriptedSink (Normalizer ScriptedSink) :=
  play (.ofOutlets moved attentive)
    [.tick (some (.full 0xabcd0200)), .tick none, .tick (some (.terminal 7 2)), .tick none]

/-- Both frames reach the station; under the old address alone the first would be dropped. -/
theorem decision_exact_moving :
    let frame : List Sample := [⟨.full 0x0200, .default⟩, ⟨.terminal 7 4, moved⟩]
    let otherFrame : List Sample := [⟨.full 0xabcd0200, moved⟩, ⟨.terminal 7 2, moved⟩]
    moving.Exact ∧ Header.Alike frame otherFrame ∧
      (∃ decision otherDecision, moving.Decided frame decision ∧
        steady.Decided otherFrame otherDecision ∧ decision.policy = otherDecision.policy ∧
        decision.route = otherDecision.route ∧ decision.route = .slow) ∧
      Route.reference [⟨.full 0x0200, .default⟩, ⟨.terminal 7 4, .default⟩]
        Config.default.policy = .drop := by
  intro frame otherFrame
  obtain ⟨exact, agree⟩ := decision_exact .default moved attentive attentive
    [.tick (some (.full 0x0200)), .write 1 7, .tick (some (.terminal 7 4)), .tick none]
    [.tick (some (.full 0xabcd0200)), .tick none, .tick (some (.terminal 7 2)), .tick none]
  have decided : moving.Decided frame ⟨.slow, moved.policy⟩ :=
    ⟨0, by decide +kernel, by decide +kernel⟩
  have otherDecided : steady.Decided otherFrame ⟨.slow, moved.policy⟩ :=
    ⟨0, by decide +kernel, by decide +kernel⟩
  have alike : Header.Alike frame otherFrame := by
    refine ⟨rfl, ?_⟩
    intro place within one oneAt other otherAt
    match place with
    | 0 =>
        cases oneAt
        cases otherAt
        exact ⟨by decide, by decide⟩
    | 1 =>
        cases oneAt
        cases otherAt
        exact ⟨by decide, by decide⟩
    | _ + 2 => cases oneAt
  exact ⟨exact, alike, ⟨_, _, decided, otherDecided, rfl,
    agree _ _ _ _ decided otherDecided alike rfl, rfl⟩, by decide +kernel⟩

end Run

end FrameRouter
