import FrameRouter.Engine.Router
import FrameRouter.Proofs.Header.Reading

/-!
# Runs

A run takes a router through ticks, register writes, new configurations and
changes of its sinks from outside, in any order, and keeps every tick.  From
the ticks one reads the accepted words with the configurations that met them,
and the routes with the policies under which they were decided.
-/

namespace FrameRouter

/-- A route with the policy in force in the tick that decided it. -/
structure Decision where
  route : Route
  policy : ForwardPolicy
deriving DecidableEq, Repr

/-- What can happen to a router. -/
inductive Action (S F : Type) where
  | tick (input : Option Word)
  | write (address : UInt8) (value : UInt32)
  | replace (config : Config)
  /-- The sinks change from outside, as when a consumer takes words. -/
  | slow (change : S → S)
  | other (change : S → S)
  | fast (change : F → F)

/-- One tick: the router in front of it and the offered word. -/
structure Beat (S F : Type) where
  router : Router S F
  input : Option Word

/-- A router and the ticks that brought it about, oldest first. -/
structure Run (S F : Type) where
  router : Router S F
  beats : List (Beat S F)

variable {S F : Type}

/-- The sample that a tick adds: the offered word if it was accepted. -/
def Router.sampled? (router : Router S F) (input : Option Word) (accepted : Bool) :
    Option Sample :=
  if accepted then input.map fun word => ⟨word, router.config⟩ else none

/-- The decision that a deciding router makes. -/
def Router.decision (router : Router S F) : Decision :=
  ⟨Route.decide router.classification router.config.policy, router.config.policy⟩

/-- The decision that a tick adds, read off the phase behind it. -/
def Router.decided? (router : Router S F) (after : Phase) : Option Decision :=
  match router.phase, after with
  | .deciding, .forwarding route => some ⟨route, router.config.policy⟩
  | _, _ => none

theorem Router.config_of_sampled? {router : Router S F} {input : Option Word} {accepted : Bool}
    {sample : Sample} (added : sample ∈ router.sampled? input accepted) :
    sample.config = router.config := by
  unfold sampled? at added
  split at added
  · obtain ⟨word, _, rfl⟩ := Option.map_eq_some_iff.mp added
    rfl
  · cases added

theorem Router.policy_of_decided? {router : Router S F} {after : Phase} {decision : Decision}
    (added : decision ∈ router.decided? after) : decision.policy = router.config.policy := by
  unfold decided? at added
  split at added
  · cases added
    rfl
  · cases added

namespace Beat

variable [Sink S] [Sink F]

/-- The word accepted in the tick. -/
def sample? (beat : Beat S F) : Option Sample :=
  beat.router.sampled? beat.input (beat.router.tick beat.input).2

/-- The route decided in the tick. -/
def decision? (beat : Beat S F) : Option Decision :=
  beat.router.decided? (beat.router.tick beat.input).1.phase

/-- The word accepted in a tick has met the configuration of the router, like those before. -/
theorem config_append {beat : Beat S F} {config : Config} {samples : List Sample}
    (router : beat.router.config = config) (met : ∀ sample ∈ samples, sample.config = config) :
    ∀ sample ∈ samples ++ beat.sample?.toList, sample.config = config := by
  intro sample membership
  rcases List.mem_append.mp membership with before | added
  · exact met sample before
  · rw [Router.config_of_sampled? (Option.mem_toList.mp added)]
    exact router

theorem policy_append {beat : Beat S F} {config : Config} {decisions : List Decision}
    (router : beat.router.config = config)
    (met : ∀ decision ∈ decisions, decision.policy = config.policy) :
    ∀ decision ∈ decisions ++ beat.decision?.toList, decision.policy = config.policy := by
  intro decision membership
  rcases List.mem_append.mp membership with before | added
  · exact met decision before
  · rw [Router.policy_of_decided? (Option.mem_toList.mp added)]
    exact congrArg Config.policy router

end Beat

namespace Run

/-- A run in which no tick has passed. -/
def start (router : Router S F) : Run S F := ⟨router, []⟩

variable [Sink S] [Sink F]

/-- The accepted words, oldest first. -/
def samples (run : Run S F) : List Sample := run.beats.filterMap Beat.sample?

/-- The decided routes, oldest first. -/
def decisions (run : Run S F) : List Decision := run.beats.filterMap Beat.decision?

/-- The accepted words without their configurations. -/
def words (run : Run S F) : List Word := run.samples.map Sample.word

/-- Let one thing happen. -/
def act (run : Run S F) : Action S F → Run S F
  | .tick input => ⟨(run.router.tick input).1, run.beats ++ [⟨run.router, input⟩]⟩
  | .write address value =>
      match run.router.write address value with
      | .ok router => { run with router := router }
      | .error _ => run
  | .replace config => { run with router := run.router.reconfigure config }
  | .slow change => { run with router.outlets.slow := change run.router.outlets.slow }
  | .other change => { run with router.outlets.other := change run.router.outlets.other }
  | .fast change => { run with router.outlets.fast := change run.router.outlets.fast }

/-- Let several things happen, one after the other. -/
def play (router : Router S F) (actions : List (Action S F)) : Run S F :=
  actions.foldl act (start router)

/-- A write leaves everything but the configuration as it is. -/
theorem act_write (run : Run S F) (address : UInt8) (value : UInt32) :
    ∃ config, run.act (.write address value) =
      { run with router := run.router.reconfigure config } := by
  cases written : run.router.config.write address value with
  | ok config =>
      refine ⟨config, ?_⟩
      simp only [act, Router.write, written]
      rfl
  | error fault =>
      refine ⟨run.router.config, ?_⟩
      simp only [act, Router.write, written]
      rfl

/-- What holds at the start and is kept by every action holds of a run. -/
theorem play_induction {motive : Run S F → Prop} (router : Router S F)
    (actions : List (Action S F)) (initial : motive (start router))
    (step : ∀ run, ∀ action ∈ actions, motive run → motive (run.act action)) :
    motive (play router actions) :=
  List.foldlRecOn actions act initial fun run held action membership =>
    step run action membership held

@[simp]
theorem samples_tick (run : Run S F) (input : Option Word) :
    (run.act (.tick input)).samples =
      run.samples ++ (Beat.mk run.router input).sample?.toList := by
  unfold samples act
  rw [List.filterMap_append]
  cases found : (Beat.mk run.router input).sample? <;> simp [found]

@[simp]
theorem decisions_tick (run : Run S F) (input : Option Word) :
    (run.act (.tick input)).decisions =
      run.decisions ++ (Beat.mk run.router input).decision?.toList := by
  unfold decisions act
  rw [List.filterMap_append]
  cases found : (Beat.mk run.router input).decision? <;> simp [found]

end Run

end FrameRouter
