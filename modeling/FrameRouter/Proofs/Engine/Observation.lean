import FrameRouter.Proofs.Engine.Run
import FrameRouter.Proofs.Sink.Observed

/-!
# Observed runs

An observed run has records of every word that its sinks were handed.  The
router sees nothing of them: without its records an observed run is the run
itself.
-/

namespace FrameRouter

variable {S F T G : Type}

/-- The same action on observed sinks; a change from outside leaves the records alone. -/
def Action.observed : Action S F → Action (Observed S) (Observed F)
  | .tick input => .tick input
  | .write address value => .write address value
  | .replace config => .replace config
  | .slow change => .slow (Observed.alter change)
  | .other change => .other (Observed.alter change)
  | .fast change => .fast (Observed.alter change)

/-- The outlets with every sink observed from now on. -/
def Outlets.observed (outlets : Outlets S F) : Outlets (Observed S) (Observed F) :=
  ⟨.fresh outlets.slow, .fresh outlets.other, .fresh outlets.fast⟩

/-- The words handed to the sink behind an outlet. -/
def Outlets.handed (outlets : Outlets (Observed S) (Observed F)) : Outlet → List Word
  | .slow => outlets.slow.words
  | .other => outlets.other.words
  | .fast => outlets.fast.words

/-- A run from the initial state of a router, with its sinks observed. -/
def Run.observed [Sink S] [Sink F] (config : Config) (outlets : Outlets S F)
    (actions : List (Action S F)) : Run (Observed S) (Observed F) :=
  Run.play (.ofOutlets config outlets.observed) (actions.map Action.observed)

/-- The outlets with every sink replaced by its image. -/
def Outlets.map (image : S → T) (fastImage : F → G) (outlets : Outlets S F) : Outlets T G :=
  ⟨image outlets.slow, image outlets.other, fastImage outlets.fast⟩

def Router.map (image : S → T) (fastImage : F → G) (router : Router S F) : Router T G where
  config := router.config
  classification := router.classification
  ring := router.ring
  outlets := router.outlets.map image fastImage
  phase := router.phase
  capturedLast := router.capturedLast
  frameWords := router.frameWords
  counters := router.counters

def Run.map (image : S → T) (fastImage : F → G) (run : Run S F) : Run T G where
  router := run.router.map image fastImage
  beats := run.beats.map fun beat => ⟨beat.router.map image fastImage, beat.input⟩

section Forgetting

variable [Sink S] [Sink F] [Sink T] [Sink G] {image : S → T} {fastImage : F → G}

theorem Outlets.accepts_map (faithful : Sink.Faithful image)
    (fastFaithful : Sink.Faithful fastImage) (outlets : Outlets S F) (route : Route) :
    (outlets.map image fastImage).accepts route = outlets.accepts route := by
  cases route <;> simp [accepts, map, faithful.ready, fastFaithful.ready]

theorem Outlets.deliver_map (faithful : Sink.Faithful image)
    (fastFaithful : Sink.Faithful fastImage) (outlets : Outlets S F) (word : Word)
    (route : Route) :
    (outlets.map image fastImage).deliver word route =
      (outlets.deliver word route).map image fastImage := by
  cases route <;> simp [deliver, map, faithful.push, fastFaithful.push]

theorem Outlets.tick_map (faithful : Sink.Faithful image)
    (fastFaithful : Sink.Faithful fastImage) (outlets : Outlets S F) :
    (outlets.map image fastImage).tick = outlets.tick.map image fastImage := by
  simp [tick, map, faithful.tick, fastFaithful.tick]

theorem Router.act_map (faithful : Sink.Faithful image)
    (fastFaithful : Sink.Faithful fastImage) (router : Router S F) (input : Option Word) :
    (router.map image fastImage).act input =
      ((router.act input).1.map image fastImage, (router.act input).2) := by
  have accepts (route : Route) :
      (router.map image fastImage).outlets.accepts route = router.outlets.accepts route :=
    router.outlets.accepts_map faithful fastFaithful route
  have deliver (word : Word) (route : Route) :
      (router.map image fastImage).outlets.deliver word route =
        (router.outlets.deliver word route).map image fastImage :=
    router.outlets.deliver_map faithful fastFaithful word route
  have phase : (router.map image fastImage).phase = router.phase := rfl
  have ring : (router.map image fastImage).ring = router.ring := rfl
  unfold act
  rw [phase]
  cases router.phase with
  | idle => cases input <;> rfl
  | capturing => cases input <;> rfl
  | deciding => rfl
  | forwarding route =>
      simp only [forward, ring]
      cases router.ring.front? with
      | none =>
          cases input with
          | none => rfl
          | some word =>
              simp only [pass, accepts, deliver]
              split <;> rfl
      | some word =>
          simp only [replay, accepts, deliver]
          split
          · split
            · cases input <;> rfl
            · rfl
          · rfl

theorem Router.tick_map (faithful : Sink.Faithful image)
    (fastFaithful : Sink.Faithful fastImage) (router : Router S F) (input : Option Word) :
    (router.map image fastImage).tick input =
      ((router.tick input).1.map image fastImage, (router.tick input).2) := by
  have outlets := router.outlets.tick_map faithful fastFaithful
  have advanced : { router.map image fastImage with
      outlets := (router.map image fastImage).outlets.tick } =
        ({ router with outlets := router.outlets.tick } : Router S F).map image fastImage := by
    simp only [map, outlets]
  unfold tick
  rw [advanced, act_map faithful fastFaithful]

end Forgetting

/-- Forgetting the observation after an observed action is the action itself. -/
theorem Run.act_observed [Sink S] [Sink F] (run : Run (Observed S) (Observed F))
    (action : Action S F) :
    (run.act action.observed).map Observed.sink Observed.sink =
      (run.map Observed.sink Observed.sink).act action := by
  cases action with
  | tick input =>
      have ticked := run.router.tick_map (Observed.faithful_sink S) (Observed.faithful_sink F) input
      simp [Action.observed, act, map, ticked]
  | write address value =>
      simp only [Action.observed, act, Router.write, map, Router.map]
      cases run.router.config.write address value <;> rfl
  | replace config => rfl
  | slow change => rfl
  | other change => rfl
  | fast change => rfl

/-- An observed run is the run without observation, and its records beside it. -/
theorem Run.observed_map [Sink S] [Sink F] (config : Config) (outlets : Outlets S F)
    (actions : List (Action S F)) :
    (Run.observed config outlets actions).map Observed.sink Observed.sink =
      Run.play (.ofOutlets config outlets) actions := by
  unfold Run.observed Run.play
  rw [List.foldl_map]
  refine (List.foldl_hom (Run.map Observed.sink Observed.sink) ?_).symm
  intro run action
  exact (run.act_observed action).symm

end FrameRouter
