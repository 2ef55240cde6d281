import FrameRouter.Proofs.Engine.Run
import FrameRouter.Proofs.Sink.Observed

/-!
# Following the outlets

A relation between the outlets of a router and the words handed to each of
them follows the work of the router when it is kept by every delivery to ready
outlets and by the passing of time.
-/

namespace FrameRouter

/-- What an outlet receives of words that move by a route. -/
def Route.share (route : Route) (outlet : Outlet) (words : List Word) : List Word :=
  if route.reaches outlet then words else []

theorem Route.share_append (route : Route) (outlet : Outlet) (first second : List Word) :
    route.share outlet (first ++ second) =
      route.share outlet first ++ route.share outlet second := by
  unfold share
  split <;> simp

/-- The shares of several items are the words of those whose routes reach the outlet. -/
theorem Route.flatMap_share {α : Type} (route : α → Route) (words : α → List Word)
    (outlet : Outlet) (items : List α) :
    items.flatMap (fun item => (route item).share outlet (words item)) =
      (items.filter fun item => (route item).reaches outlet).flatMap words := by
  induction items with
  | nil => rfl
  | cons item items ih =>
      rw [List.flatMap_cons, ih, List.filter_cons, Route.share]
      split
      · rw [List.flatMap_cons]
      · rw [List.nil_append]

variable {S F : Type}

/-- A relation between sinks and the words handed to them, kept by deliveries and by time. -/
structure Follows [Sink S] [Sink F]
    (relation : Outlets S F → (Outlet → List Word) → Prop) : Prop where
  deliver : ∀ {outlets handed} (word : Word) (route : Route), relation outlets handed →
    outlets.accepts route = true →
    relation (outlets.deliver word route) fun outlet => handed outlet ++ route.share outlet [word]
  tick : ∀ {outlets handed}, relation outlets handed → relation outlets.tick handed

/-- The changes of sinks from outside keep a relation to the words handed to them. -/
def Action.Keeps (relation : Outlets S F → (Outlet → List Word) → Prop) :
    Action S F → Prop
  | .slow change => ∀ outlets handed, relation outlets handed →
      relation { outlets with slow := change outlets.slow } handed
  | .other change => ∀ outlets handed, relation outlets handed →
      relation { outlets with other := change outlets.other } handed
  | .fast change => ∀ outlets handed, relation outlets handed →
      relation { outlets with fast := change outlets.fast } handed
  | _ => True

/-- Each sink is related to the words handed to it. -/
structure Outlets.Tracked (slow other : S → List Word → Prop) (fast : F → List Word → Prop)
    (outlets : Outlets S F) (handed : Outlet → List Word) : Prop where
  slow : slow outlets.slow (handed .slow)
  other : other outlets.other (handed .other)
  fast : fast outlets.fast (handed .fast)

section Tracked

variable [Sink S] [Sink F] {outlets : Outlets S F} {route : Route}

theorem Outlets.deliver_slow (outlets : Outlets S F) (word : Word) (route : Route) :
    (outlets.deliver word route).slow =
      if route.reaches .slow then Sink.push outlets.slow word else outlets.slow := by
  cases route <;> rfl

theorem Outlets.deliver_other (outlets : Outlets S F) (word : Word) (route : Route) :
    (outlets.deliver word route).other =
      if route.reaches .other then Sink.push outlets.other word else outlets.other := by
  cases route <;> rfl

theorem Outlets.deliver_fast (outlets : Outlets S F) (word : Word) (route : Route) :
    (outlets.deliver word route).fast =
      if route.reaches .fast then Sink.push outlets.fast word else outlets.fast := by
  cases route <;> rfl

theorem Outlets.accepts_eq (outlets : Outlets S F) (route : Route) :
    outlets.accepts route =
      ((!route.reaches .slow || Sink.ready outlets.slow) &&
        (!route.reaches .other || Sink.ready outlets.other) &&
        (!route.reaches .fast || Sink.ready outlets.fast)) := by
  cases route <;> simp [accepts, Route.reaches]

/-- A sink that tracks its words tracks its share of a delivery. -/
theorem Tracks.share {relation : S → List Word → Prop} (tracks : Tracks relation) {sink : S}
    {words : List Word} (outlet : Outlet) (word : Word) (related : relation sink words)
    (ready : (!route.reaches outlet || Sink.ready sink) = true) :
    relation (if route.reaches outlet then Sink.push sink word else sink)
      (words ++ route.share outlet [word]) := by
  unfold Route.share
  split
  · rename_i reached
    rw [reached, Bool.not_true, Bool.false_or] at ready
    exact tracks.push word related ready
  · rw [List.append_nil]
    exact related

/-- What every sink tracks by itself, the outlets follow together. -/
theorem Follows.tracked {slow other : S → List Word → Prop} {fast : F → List Word → Prop}
    (slowTracks : Tracks slow) (otherTracks : Tracks other) (fastTracks : Tracks fast) :
    Follows (Outlets.Tracked slow other fast) where
  deliver := by
    intro outlets handed word route tracked accepted
    rw [Outlets.accepts_eq, Bool.and_eq_true, Bool.and_eq_true] at accepted
    obtain ⟨⟨slowReady, otherReady⟩, fastReady⟩ := accepted
    constructor
    · rw [Outlets.deliver_slow]
      exact slowTracks.share .slow word tracked.slow slowReady
    · rw [Outlets.deliver_other]
      exact otherTracks.share .other word tracked.other otherReady
    · rw [Outlets.deliver_fast]
      exact fastTracks.share .fast word tracked.fast fastReady
  tick := by
    intro outlets handed tracked
    exact ⟨slowTracks.tick tracked.slow, otherTracks.tick tracked.other,
      fastTracks.tick tracked.fast⟩

end Tracked

end FrameRouter
