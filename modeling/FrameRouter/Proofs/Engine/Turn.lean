import FrameRouter.Engine.Router

/-!
# Turns

What a router does with the word offered in one tick, once the sinks have
advanced.  The nine turns are the only things that ever happen to a router by
itself; whatever holds of each of them holds of every tick.
-/

namespace FrameRouter

namespace Router

variable {S F : Type}

/-- Ready to capture the first word of a frame: nothing of the last one is left. -/
def cleared (router : Router S F) : Router S F :=
  { router with
    ring := router.ring.reset
    classification := .start
    capturedLast := false
    frameWords := 0 }

/-- Without a frame in flight. -/
def rested (router : Router S F) : Router S F := { router with phase := .idle }

/-- The word that waits to leave: the front of the ring, or the offered one behind an empty ring. -/
def candidate? (router : Router S F) (input : Option Word) : Option Word :=
  router.ring.front?.or input

theorem candidate?_of_front {router : Router S F} {word : Word} (input : Option Word)
    (front : router.ring.front? = some word) : router.candidate? input = some word := by
  simp [candidate?, front]

theorem candidate?_of_empty {router : Router S F} (input : Option Word)
    (empty : router.ring.front? = none) : router.candidate? input = input := by
  simp [candidate?, empty]

variable [Sink S] [Sink F]

/-- The sinks have advanced by one tick. -/
def advanced (router : Router S F) : Router S F := { router with outlets := router.outlets.tick }

/-- The front of the ring has left through the outlets of the route. -/
def replayed (router : Router S F) (route : Route) (word : Word) : Router S F :=
  { router with ring := router.ring.pop, outlets := router.outlets.deliver word route }

/-- An offered word has gone through to the outlets of the route. -/
def passed (router : Router S F) (route : Route) (word : Word) : Router S F :=
  { router with
    outlets := router.outlets.deliver word route
    frameWords := router.frameWords + 1
    phase := if word.last then .idle else router.phase
    counters := router.counters.count .word }

/-- The word that leaves in a turn, and the route by which it leaves. -/
def exit? (router : Router S F) (input : Option Word) : Option (Route × Word) :=
  match router.phase with
  | .forwarding route =>
      if router.outlets.accepts route then (router.candidate? input).map (Prod.mk route) else none
  | _ => none

/-- A word of a decided frame waits, and an outlet of the route is not ready. -/
def stalls (router : Router S F) (input : Option Word) : Bool :=
  match router.phase with
  | .forwarding route => (router.candidate? input).isSome && !router.outlets.accepts route
  | _ => false

/-- One turn: the offered word, the router after it and whether the word was accepted. -/
inductive Turn (router : Router S F) : Option Word → Router S F → Bool → Prop where
  /-- There is no word to act on. -/
  | rest (undecided : router.phase ≠ .deciding)
      (nothing : ∀ route, router.phase = .forwarding route → router.ring.front? = none) :
      Turn router none router false
  /-- The first word of a frame is captured. -/
  | begin (word : Word) (idle : router.phase = .idle) :
      Turn router (some word) (router.cleared.capture word) true
  /-- A further header word is captured. -/
  | capture (word : Word) (capturing : router.phase = .capturing) :
      Turn router (some word) (router.capture word) true
  /-- The frame is given its route. -/
  | decide (input : Option Word) (deciding : router.phase = .deciding) :
      Turn router input router.decide false
  /-- A word cannot leave, because an outlet of the route is not ready. -/
  | stall (input : Option Word) (route : Route) (word : Word)
      (forwarding : router.phase = .forwarding route)
      (waiting : router.candidate? input = some word)
      (refused : router.outlets.accepts route = false) :
      Turn router input (router.count .stall) false
  /-- A captured word leaves that does not end the frame. -/
  | replay (input : Option Word) (route : Route) (word : Word)
      (forwarding : router.phase = .forwarding route)
      (front : router.ring.front? = some word)
      (accepted : router.outlets.accepts route = true) (inside : word.last = false) :
      Turn router input (router.replayed route word) false
  /-- The captured terminal word leaves, and no further frame begins. -/
  | finish (route : Route) (word : Word)
      (forwarding : router.phase = .forwarding route)
      (front : router.ring.front? = some word)
      (accepted : router.outlets.accepts route = true) (ended : word.last = true) :
      Turn router none (router.replayed route word).rested false
  /-- The captured terminal word leaves, and the first word of the next frame is captured. -/
  | exchange (route : Route) (word next : Word)
      (forwarding : router.phase = .forwarding route)
      (front : router.ring.front? = some word)
      (accepted : router.outlets.accepts route = true) (ended : word.last = true) :
      Turn router (some next) ((router.replayed route word).rested.cleared.capture next) true
  /-- An offered word goes through behind the captured ones. -/
  | pass (route : Route) (word : Word)
      (forwarding : router.phase = .forwarding route)
      (empty : router.ring.front? = none)
      (accepted : router.outlets.accepts route = true) :
      Turn router (some word) (router.passed route word) true

/-- Replaying is a stall or one of the three turns that move the front of the ring. -/
theorem replay_turn (router : Router S F) (route : Route) (word : Word) (input : Option Word)
    (forwarding : router.phase = .forwarding route) (front : router.ring.front? = some word) :
    Turn router input (router.replay route word input).1 (router.replay route word input).2 := by
  cases accepted : router.outlets.accepts route with
  | false =>
      simp only [replay, accepted, Bool.false_eq_true, ↓reduceIte]
      exact .stall input route word forwarding (by simp [candidate?, front]) accepted
  | true =>
      cases ended : word.last with
      | false =>
          simp only [replay, accepted, ended, Bool.false_eq_true, ↓reduceIte]
          exact .replay input route word forwarding front accepted ended
      | true =>
          simp only [replay, accepted, ended, ↓reduceIte]
          cases input with
          | none => exact .finish route word forwarding front accepted ended
          | some next => exact .exchange route word next forwarding front accepted ended

/-- Behind an empty ring an offered word passes or stalls. -/
theorem pass_turn (router : Router S F) (route : Route) (input : Option Word)
    (forwarding : router.phase = .forwarding route) (empty : router.ring.front? = none) :
    Turn router input (router.pass route input).1 (router.pass route input).2 := by
  cases input with
  | none => exact .rest (by simp [forwarding]) (fun _ _ => empty)
  | some word =>
      cases accepted : router.outlets.accepts route with
      | false =>
          simp only [pass, accepted, Bool.false_eq_true, ↓reduceIte]
          exact .stall _ route word forwarding (by simp [candidate?, empty]) accepted
      | true =>
          simp only [pass, accepted, ↓reduceIte]
          exact .pass route word forwarding empty accepted

/-- Acting on an offered word is one of the turns. -/
theorem act_turn (router : Router S F) (input : Option Word) :
    Turn router input (router.act input).1 (router.act input).2 := by
  unfold act
  cases phase : router.phase with
  | idle =>
      cases input with
      | none => exact .rest (by simp [phase]) (by simp [phase])
      | some word => exact .begin word phase
  | capturing =>
      cases input with
      | none => exact .rest (by simp [phase]) (by simp [phase])
      | some word => exact .capture word phase
  | deciding => exact .decide input phase
  | forwarding route =>
      simp only [forward]
      cases front : router.ring.front? with
      | none => exact router.pass_turn route input phase front
      | some word => exact router.replay_turn route word input phase front

/-- A tick is a turn of the router whose sinks have advanced. -/
theorem tick_turn (router : Router S F) (input : Option Word) :
    Turn router.advanced input (router.tick input).1 (router.tick input).2 :=
  router.advanced.act_turn input

/-- There is only one turn for a router and an offered word. -/
theorem Turn.act_eq {router after : Router S F} {input : Option Word} {accepted : Bool}
    (turn : Turn router input after accepted) : router.act input = (after, accepted) := by
  unfold act
  cases turn with
  | rest undecided nothing =>
      cases phase : router.phase with
      | deciding => exact absurd phase undecided
      | idle => rfl
      | capturing => rfl
      | forwarding route =>
          simp only [forward, nothing route phase]
          rfl
  | begin word idle =>
      rw [idle]
      rfl
  | capture word capturing => rw [capturing]
  | decide input deciding => rw [deciding]
  | stall input route word forwarding waiting refused =>
      simp only [forwarding, forward]
      cases front : router.ring.front? with
      | none =>
          rw [candidate?_of_empty input front] at waiting
          simp [waiting, Router.pass, refused]
      | some captured => simp [Router.replay, refused]
  | replay input route word forwarding front accepts inside =>
      simp only [forwarding, forward, front, Router.replay, accepts, inside, if_true,
        Bool.false_eq_true, if_false, replayed]
  | finish route word forwarding front accepts ended =>
      simp only [forwarding, forward, front, Router.replay, accepts, ended, if_true]
      rfl
  | exchange route word next forwarding front accepts ended =>
      simp only [forwarding, forward, front, Router.replay, accepts, ended, if_true]
      rfl
  | pass route word forwarding empty accepts =>
      simp only [forwarding, forward, empty, Router.pass, accepts, if_true]
      rw [passed, forwarding]

/-- A word waits in vain if one of the outlets on its route is not ready. -/
theorem stalls_of_refused {router : Router S F} {input : Option Word} {route : Route} {word : Word}
    (forwarding : router.phase = .forwarding route)
    (waiting : router.candidate? input = some word)
    (refused : router.outlets.accepts route = false) : router.stalls input = true := by
  simp [stalls, forwarding, waiting, refused]

theorem of_stalls {router : Router S F} {input : Option Word} (stalls : router.stalls input = true) :
    ∃ route word, router.phase = .forwarding route ∧ router.candidate? input = some word ∧
      router.outlets.accepts route = false := by
  unfold Router.stalls at stalls
  split at stalls
  · rename_i route forwarding
    obtain ⟨waits, refused⟩ := Bool.and_eq_true_iff.mp stalls
    obtain ⟨word, waiting⟩ := Option.isSome_iff_exists.mp waits
    exact ⟨route, word, forwarding, waiting, by simpa using refused⟩
  · cases stalls

/-- A word that need not wait finds its outlets ready. -/
theorem accepts_of_not_stalls {router : Router S F} {input : Option Word} {route : Route}
    {word : Word} (forwarding : router.phase = .forwarding route)
    (waiting : router.candidate? input = some word) (free : router.stalls input = false) :
    router.outlets.accepts route = true := by
  simpa [stalls, forwarding, waiting] using free

theorem exit?_of_phase {router : Router S F} (input : Option Word)
    (still : ∀ route, router.phase ≠ .forwarding route) : router.exit? input = none := by
  unfold exit?
  split
  · rename_i route forwarding
    exact absurd forwarding (still route)
  · rfl

/-- Nothing happens in a turn: there is no word to act on, or none can leave. -/
inductive Blocked (router : Router S F) : Option Word → Prop where
  | rest (undecided : router.phase ≠ .deciding)
      (nothing : ∀ route, router.phase = .forwarding route → router.ring.front? = none) :
      Blocked router none
  | stall (input : Option Word) (route : Route) (forwarding : router.phase = .forwarding route)
      (refused : router.outlets.accepts route = false) : Blocked router input

theorem Blocked.exit?_eq {router : Router S F} {input : Option Word}
    (blocked : router.Blocked input) : router.exit? input = none := by
  unfold exit?
  cases blocked with
  | rest undecided nothing =>
      split
      · rename_i route forwarding
        simp [candidate?, nothing route forwarding]
      · rfl
  | stall input route forwarding refused => simp [forwarding, refused]

theorem exit?_of_candidate {router : Router S F} {input : Option Word} {route : Route}
    {word : Word} (forwarding : router.phase = .forwarding route)
    (waiting : router.candidate? input = some word)
    (accepted : router.outlets.accepts route = true) :
    router.exit? input = some (route, word) := by
  simp [exit?, forwarding, waiting, accepted]

/-- A word leaves by the route of the frame in flight, and all its outlets are ready. -/
theorem of_exit? {router : Router S F} {input : Option Word} {route : Route} {word : Word}
    (exit : router.exit? input = some (route, word)) :
    router.phase = .forwarding route ∧ router.outlets.accepts route = true ∧
      router.candidate? input = some word := by
  unfold exit? at exit
  split at exit
  · rename_i leaving forwarding
    split at exit
    · rename_i accepted
      obtain ⟨_, waiting, same⟩ := Option.map_eq_some_iff.mp exit
      cases same
      exact ⟨forwarding, accepted, waiting⟩
    · cases exit
  · cases exit

/-- The outlets behind a turn: the word that leaves has been handed to those of its route. -/
def released (router : Router S F) (input : Option Word) : Outlets S F :=
  match router.exit? input with
  | some (route, word) => router.outlets.deliver word route
  | none => router.outlets

/-- No turn changes the outlets in any other way than by the word that leaves. -/
theorem Turn.outlets_eq {router after : Router S F} {input : Option Word} {accepted : Bool}
    (turn : Turn router input after accepted) : after.outlets = router.released input := by
  unfold released
  cases turn with
  | rest undecided nothing => rw [(Blocked.rest undecided nothing).exit?_eq]
  | begin word idle =>
      rw [exit?_of_phase _ (by simp [idle])]
      rfl
  | capture word capturing =>
      rw [exit?_of_phase _ (by simp [capturing])]
      rfl
  | decide input deciding =>
      rw [exit?_of_phase _ (by simp [deciding])]
      rfl
  | stall input route word forwarding waiting refused =>
      rw [(Blocked.stall input route forwarding refused).exit?_eq]
      rfl
  | replay input route word forwarding front accepts =>
      rw [exit?_of_candidate forwarding (candidate?_of_front input front) accepts]
      rfl
  | finish route word forwarding front accepts =>
      rw [exit?_of_candidate forwarding (candidate?_of_front none front) accepts]
      rfl
  | exchange route word next forwarding front accepts =>
      rw [exit?_of_candidate forwarding (candidate?_of_front _ front) accepts]
      rfl
  | pass route word forwarding empty accepts =>
      rw [exit?_of_candidate forwarding (candidate?_of_empty _ empty) accepts]
      rfl

/-- No turn changes the configuration. -/
theorem Turn.config_eq {router after : Router S F} {input : Option Word} {accepted : Bool}
    (turn : Turn router input after accepted) : after.config = router.config := by
  cases turn <;> rfl

end Router

end FrameRouter
