import FrameRouter.Proofs.Engine.Conservation
import FrameRouter.Proofs.Engine.Deciding
import FrameRouter.Proofs.Engine.Refinement

/-!
# Runs under one configuration

As long as nothing writes to the registers, the routes of a run are those of
its frames under the configuration it began with.
-/

namespace FrameRouter

open Cutting

/-- The configuration is written to or replaced. -/
def Action.configures {S F : Type} : Action S F → Bool
  | .write _ _ => true
  | .replace _ => true
  | _ => false

namespace Run

variable {S F : Type} [Sink S] [Sink F]

/-- The configuration has met every accepted word and every decision. -/
structure Constant (config : Config) (run : Run S F) : Prop where
  router : run.router.config = config
  samples : ∀ sample ∈ run.samples, sample.config = config
  decisions : ∀ decision ∈ run.decisions, decision.policy = config.policy

theorem Constant.tick {config : Config} {run : Run S F} (constant : run.Constant config)
    (input : Option Word) : (run.act (.tick input)).Constant config where
  router := (run.router.tick_turn input).config_eq.trans constant.router
  samples := by
    rw [samples_tick]
    exact Beat.config_append constant.router constant.samples
  decisions := by
    rw [decisions_tick]
    exact Beat.policy_append constant.router constant.decisions

theorem constant_play (config : Config) (outlets : Outlets S F) (actions : List (Action S F))
    (unwritten : ∀ action ∈ actions, action.configures = false) :
    (play (.ofOutlets config outlets) actions).Constant config := by
  have initial : (start (Router.ofOutlets config outlets)).Constant config :=
    ⟨rfl, List.forall_mem_nil _, List.forall_mem_nil _⟩
  refine play_induction (motive := Constant config) _ actions initial ?_
  intro run action membership constant
  have still := unwritten action membership
  cases action with
  | tick input => exact constant.tick input
  | write address value => cases still
  | replace config => cases still
  | slow change => exact ⟨constant.router, constant.samples, constant.decisions⟩
  | other change => exact ⟨constant.router, constant.samples, constant.decisions⟩
  | fast change => exact ⟨constant.router, constant.samples, constant.decisions⟩

/-- The frames of a run are those of its samples. -/
theorem frames_eq (run : Run S F) : run.frames = run.sampled.map (List.map Sample.word) := by
  rw [frames, words, sampled]
  exact pieces_map Sample.word (fun _ => rfl) run.samples

/-- A frame of samples that met one configuration is decided by its words. -/
theorem Constant.decided {config : Config} {run : Run S F} (constant : run.Constant config)
    (exact : run.Exact) {frame : List Sample} {decision : Decision}
    (decided : run.Decided frame decision) :
    decision.route = Frame.route config ⟨frame.map Sample.word⟩ := by
  obtain ⟨place, frameAt, decisionAt⟩ := decided
  have met : ∀ sample ∈ frame, sample.config = config := by
    intro sample inside
    refine constant.samples sample ?_
    have cut : run.sampled.flatten = run.samples := List.flatten_splitBy _ _
    rw [← cut]
    exact List.mem_flatten_of_mem (List.mem_of_getElem? frameAt) inside
  rw [exact.decided frame decision ⟨place, frameAt, decisionAt⟩,
    constant.decisions decision (List.mem_of_getElem? decisionAt), Frame.route,
    Delivery.samples_of_constant met]

/-- The routes of a run are those of its frames; the newest one may be undecided. -/
def Routed (config : Config) (run : Run S F) : Prop :=
  run.routes = (run.frames.take (run.frames.length - run.undecided)).map fun words =>
    Frame.route config ⟨words⟩

theorem routed_play (config : Config) (outlets : Outlets S F) (actions : List (Action S F))
    (unwritten : ∀ action ∈ actions, action.configures = false) :
    (play (.ofOutlets config outlets) actions).Routed config := by
  have constant := constant_play config outlets actions unwritten
  have exact := exact_play config outlets actions
  generalize play (.ofOutlets config outlets) actions = run at constant exact
  have counted := exact.counted
  unfold Routed routes
  rw [frames_eq, List.length_map, ← List.map_take, List.map_map]
  apply List.ext_getElem?
  intro place
  rw [List.getElem?_map, List.getElem?_map, List.getElem?_take]
  by_cases within : place < run.decisions.length
  · have reached : place < run.sampled.length - run.undecided := by omega
    have listed : place < run.sampled.length := by omega
    rw [if_pos reached, List.getElem?_eq_getElem within, List.getElem?_eq_getElem listed]
    exact congrArg some (constant.decided exact
      ⟨place, List.getElem?_eq_getElem listed, List.getElem?_eq_getElem within⟩)
  · have unreached : ¬place < run.sampled.length - run.undecided := by omega
    rw [if_neg unreached, List.getElem?_eq_none (Nat.le_of_not_lt within)]
    rfl

end Run

end FrameRouter
