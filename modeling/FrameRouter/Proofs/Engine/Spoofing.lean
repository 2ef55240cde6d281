import FrameRouter.Proofs.Engine.Attribution
import FrameRouter.Proofs.Engine.Deciding

/-!
# Spoofing

A configuration that changes while a frame is read can turn its route, but only
within bounds that the words of the frame set by themselves.  A frame for every
station comes to the slow path, only a marked datagram comes to the fast path,
and a frame of one word comes to neither.
-/

namespace FrameRouter

open Cutting Normalization

namespace Header

/-- The frame is addressed to every station. -/
structure ToEveryone (frame : List Word) : Prop where
  reaches : 2 ≤ frame.length
  high : (frame.getD 0 .zero).low = 0xffff
  low : (frame.getD 1 .zero).data = 0xffffffff

/-- The frame is a datagram with a marker in front of its payload. -/
structure Marked (frame : List Word) : Prop where
  reaches : 12 ≤ frame.length
  network : (frame.getD 3 .zero).low = 0x0800
  datagram : protocol (frame.getD 6 .zero) = 17
  marker : (frame.getD 11 .zero).data ≠ 0

theorem forEveryone_iff (frame : List Sample) :
    ForEveryone frame ↔ ToEveryone (frame.map Sample.word) := by
  constructor
  · rintro ⟨reaches, high, low⟩
    exact ⟨by simpa using reaches, by rwa [← wordAt_eq], by rwa [← wordAt_eq]⟩
  · rintro ⟨reaches, high, low⟩
    exact ⟨by simpa using reaches, by rwa [wordAt_eq], by rwa [wordAt_eq]⟩

theorem ForService.marked_words {frame : List Sample} (service : ForService frame) :
    Marked (frame.map Sample.word) := by
  refine ⟨by simpa using service.reaches, ?_, ?_, ?_⟩
  · rw [← wordAt_eq]
    exact service.network
  · rw [← wordAt_eq]
    exact service.datagram
  · rw [← wordAt_eq]
    exact service.marked

end Header

open Header

namespace Route

/-- The words of the frame allow the route, whatever the configurations. -/
structure Admitted (route : Route) (frame : List Word) : Prop where
  everyone : ToEveryone frame → route = .slow ∨ route = .both
  fast : route = .fast → Marked frame
  single : frame.length = 1 → route = .other ∨ route = .drop

/-- The bounds hold however often the configuration changes in the meantime. -/
theorem admitted_reference (frame : List Sample) (policy : ForwardPolicy) :
    (reference frame policy).Admitted (frame.map Sample.word) := by
  refine ⟨?_, ?_, ?_⟩
  · intro everyone
    rw [← forEveryone_iff] at everyone
    unfold reference
    rw [if_pos everyone]
    split
    · exact Or.inl rfl
    · split
      · exact Or.inr rfl
      · exact Or.inl rfl
  · intro fast
    exact (service_of_reference fast).marked_words
  · intro single
    have length : frame.length = 1 := by simpa using single
    have unsuppressed : ¬Suppressed frame := fun suppressed =>
      absurd suppressed.reaches (by omega)
    have particular : ¬ForEveryone frame := fun everyone => absurd everyone.reaches (by omega)
    have foreign : ¬ForStation frame := fun station => absurd station.reaches (by omega)
    unfold reference
    rw [if_neg unsuppressed, if_neg particular, if_pos foreign]
    split
    · exact Or.inl rfl
    · exact Or.inr rfl

/-- A station that is given the address of all stations does not keep a broadcast to itself. -/
example :
    reference [⟨.full 0xffff, .default⟩,
      ⟨.terminal 0xffffffff 4, { Config.default with mac := ⟨0xffff, 0xffffffff⟩ }⟩]
      { broadcast := true, nonLocal := false } = .both := by decide

end Route

/-- What the sinks get of a frame stays within the bounds that its words set. -/
structure Run.Guarded {S : Type} [Sink S] (run : Run (Observed S) (Normalizer (Observed S))) :
    Prop extends run.Attributed where
  /-- All that leaves of a frame for every station goes to the slow path. -/
  everyone : ∀ (place : Nat) (frame : List Word), run.frames[place]? = some frame →
    Header.ToEveryone frame →
      (∀ route, run.routes[place]? = some route → route = .slow ∨ route = .both) ∧
        (run.shares .slow)[place]? = run.parts[place]? ∧
        ((run.shares .other).getD place [] = [] ∨
          (run.shares .other)[place]? = (run.shares .slow)[place]?) ∧
        (run.shares .fast).getD place [] = []
  delivered : ∀ (place : Nat) (frame : List Word), run.finished[place]? = some frame →
    Header.ToEveryone frame → (run.shares .slow)[place]? = some frame
  unmarked : ∀ (place : Nat) (frame : List Word), run.frames[place]? = some frame →
    ¬Header.Marked frame → (run.shares .fast).getD place [] = []
  single : ∀ (place : Nat) (frame : List Word), run.frames[place]? = some frame →
    frame.length = 1 →
      (run.shares .slow).getD place [] = [] ∧ (run.shares .fast).getD place [] = []

namespace Balanced

variable {S F : Type} [Sink S] [Sink F]
  {relation : Outlets S F → (Outlet → List Word) → Prop} {run : Run S F} {ledger : Ledger}

/-- Every decided frame has a route that its words allow. -/
theorem admitted (balanced : Balanced relation run.router run.samples run.decisions ledger)
    {place : Nat} {frame : List Word} {route : Route} (listed : run.frames[place]? = some frame)
    (routed : run.routes[place]? = some route) : route.Admitted frame := by
  have same (sample : Sample) : sample.word.last = sample.ends := rfl
  rw [Run.frames, Run.words, pieces_map Sample.word same, List.getElem?_map] at listed
  rw [Run.routes, List.getElem?_map] at routed
  obtain ⟨samples, sampled, rfl⟩ := Option.map_eq_some_iff.mp listed
  obtain ⟨decision, decided, rfl⟩ := Option.map_eq_some_iff.mp routed
  rw [balanced.reference ⟨place, sampled, decided⟩]
  exact Route.admitted_reference samples decision.policy

/-- Without a route that reaches the outlet there is no share of a frame. -/
theorem share_eq_nil
    (balanced : Balanced relation run.router run.samples run.decisions ledger) {outlet : Outlet}
    {place : Nat} (away : ∀ route, run.routes[place]? = some route → route.reaches outlet = false) :
    (run.shares outlet).getD place [] = [] := by
  rw [List.getD_eq_getElem?_getD, balanced.getElem?_shares]
  cases routed : run.routes[place]? with
  | none => rfl
  | some route => simp [Route.share, away route routed]

/-- By a route that reaches the slow path all goes there that leaves of a frame. -/
theorem shares_slow
    (balanced : Balanced relation run.router run.samples run.decisions ledger) {place : Nat}
    (reached : ∀ route, run.routes[place]? = some route → route.reaches .slow = true) :
    (run.shares .slow)[place]? = run.parts[place]? := by
  have length := balanced.length_parts
  rw [balanced.getElem?_shares]
  cases routed : run.routes[place]? with
  | none =>
      rw [List.getElem?_eq_none_iff, ← length] at routed
      exact (List.getElem?_eq_none routed).symm
  | some route =>
      obtain ⟨within, _⟩ := List.getElem?_eq_some_iff.mp routed
      rw [← length] at within
      simp [Route.share, reached route routed, Outlet.rendered, within]

/-- The peer gets no share of a frame or that of the slow path, unless it gets the frame alone. -/
theorem shares_other
    (balanced : Balanced relation run.router run.samples run.decisions ledger) {place : Nat}
    (accompanied : ∀ route, run.routes[place]? = some route → route ≠ .other) :
    (run.shares .other).getD place [] = [] ∨
      (run.shares .other)[place]? = (run.shares .slow)[place]? := by
  cases routed : run.routes[place]? with
  | none => exact Or.inl (balanced.share_eq_nil (by simp [routed]))
  | some route =>
      cases route with
      | slow => exact Or.inl (balanced.share_eq_nil (by simp [routed, Route.reaches]))
      | other => exact absurd rfl (accompanied .other routed)
      | both =>
          right
          rw [balanced.getElem?_shares, balanced.getElem?_shares, routed]
          rfl
      | fast => exact Or.inl (balanced.share_eq_nil (by simp [routed, Route.reaches]))
      | drop => exact Or.inl (balanced.share_eq_nil (by simp [routed, Route.reaches]))

/-- A balanced ledger of observed sinks shows that the shares stay within their bounds. -/
theorem guarded {S : Type} [Sink S] {run : Run (Observed S) (Normalizer (Observed S))}
    (balanced : Balanced (Outlets.Tracked Observed.Received Observed.Received
      (Normalizer.Normalizes Observed.Received)) run.router run.samples run.decisions ledger) :
    run.Guarded := by
  have attributed := balanced.attributed
  have slow {place : Nat} {frame : List Word} (listed : run.frames[place]? = some frame)
      (everyone : Header.ToEveryone frame) :
      (run.shares .slow)[place]? = run.parts[place]? := by
    refine balanced.shares_slow ?_
    intro route routed
    rcases (balanced.admitted listed routed).everyone everyone with rfl | rfl <;> rfl
  refine ⟨attributed, ?_, ?_, ?_, ?_⟩
  · intro place frame listed everyone
    have routes : ∀ route, run.routes[place]? = some route → route = .slow ∨ route = .both :=
      fun route routed => (balanced.admitted listed routed).everyone everyone
    refine ⟨routes, slow listed everyone, balanced.shares_other ?_, balanced.share_eq_nil ?_⟩
    · intro route routed
      rcases routes route routed with rfl | rfl <;> decide
    · intro route routed
      rcases routes route routed with rfl | rfl <;> rfl
  · intro place frame finished everyone
    obtain ⟨listed, left⟩ := attributed.finished place frame finished
    exact (slow listed everyone).trans left
  · intro place frame listed unmarked
    refine balanced.share_eq_nil ?_
    intro route routed
    have fast := (balanced.admitted listed routed).fast
    cases route with
    | fast => exact absurd (fast rfl) unmarked
    | slow => rfl
    | other => rfl
    | both => rfl
    | drop => rfl
  · intro place frame listed single
    have routes : ∀ route, run.routes[place]? = some route → route = .other ∨ route = .drop :=
      fun route routed => (balanced.admitted listed routed).single single
    constructor <;>
      · refine balanced.share_eq_nil ?_
        intro route routed
        rcases routes route routed with rfl | rfl <;> rfl

end Balanced

/--
Over sinks of any kind, visited in any way, and through changes of the
configuration in any tick, what the sinks get of a frame stays within the bounds
that its words set.  Observing the sinks has not changed the run.
-/
theorem Run.unspoofed {S V : Type} [Sink S] (config : Config) (sinks : Outlet → S)
    (act : V → S → S) (incidents : List (Incident V)) :
    (observedBehind config sinks act incidents).map Observed.sink
        (Normalizer.map Observed.sink) = behind config sinks act incidents ∧
      (observedBehind config sinks act incidents).Guarded := by
  refine ⟨observedBehind_map config sinks act incidents, ?_⟩
  obtain ⟨ledger, balanced⟩ := balanced_tracked (fun _ => Observed.Received)
    (fun manner => Observed.alter (act manner)) (fun outlet => .fresh (sinks outlet))
    (fun _ => Observed.tracks_received S) (fun outlet => Observed.received_fresh (sinks outlet))
    (fun _ _ _ _ received => received) config incidents
  exact balanced.guarded

end FrameRouter
