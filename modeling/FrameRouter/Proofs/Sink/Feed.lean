import FrameRouter.Proofs.Sink.Filling
import FrameRouter.Sink.Scripted

/-!
# Feeds

A normalizer is offered words, lets ticks pass and stands in front of a sink
that may change from outside.  Observing that sink shows the normalised frames
of the words taken, and changes nothing.  The words that a frame is owed reach
the sink one by one, in the ticks that find it ready.
-/

namespace FrameRouter

open Cutting Normalization

namespace Normalizer

variable {S T : Type} [Sink S]

/-- The normalizer in front of the image of its sink. -/
def map (image : S → T) (normalizer : Normalizer S) : Normalizer T :=
  ⟨image normalizer.inner, normalizer.stage, normalizer.truncations, normalizer.extensions⟩

/-- A normalizer behaves in the same way in front of the image of its sink. -/
theorem faithful_map [Sink T] {image : S → T} (faithful : Sink.Faithful image) :
    Sink.Faithful (map image) where
  ready := by
    intro normalizer
    change (normalizer.map image).ready = normalizer.ready
    unfold ready map
    simp only [faithful.ready]
  push := by
    intro normalizer word
    change (normalizer.map image).push word = (normalizer.push word).map image
    obtain ⟨inner, stage, truncations, extensions⟩ := normalizer
    unfold push map
    dsimp only
    generalize accept word stage = result
    obtain ⟨passed, next⟩ := result
    cases passed with
    | none => rfl
    | some out => simp only [faithful.push]
  tick := by
    intro normalizer
    change (normalizer.map image).tick = normalizer.tick.map image
    obtain ⟨inner, stage, truncations, extensions⟩ := normalizer
    unfold tick fill map
    cases stage with
    | filling count tail =>
        simp only [faithful.ready]
        cases Sink.ready inner with
        | false => simp [faithful.tick]
        | true => simp [faithful.tick, faithful.push]
    | header => simp [faithful.tick]
    | body => simp [faithful.tick]
    | swallowing => simp [faithful.tick]
  isIdle := by
    intro normalizer
    change (normalizer.map image).isIdle = normalizer.isIdle
    unfold isIdle map
    simp only [faithful.isIdle]

end Normalizer

/-- What can happen to a normalizer. -/
inductive Handling (S : Type) where
  /-- A word is offered; it is taken if the normalizer is ready. -/
  | offer (word : Word)
  | tick
  /-- The sink behind changes from outside. -/
  | change (alteration : S → S)

/-- The same on an observed sink. -/
def Handling.observed {S : Type} : Handling S → Handling (Observed S)
  | .offer word => .offer word
  | .tick => .tick
  | .change alteration => .change (Observed.alter alteration)

/-- A normalizer and the words that it has taken, oldest first. -/
structure Feed (S : Type) where
  normalizer : Normalizer S
  taken : List Word

namespace Feed

variable {S T : Type}

/-- A normalizer that has taken no word. -/
def start (inner : S) : Feed S := ⟨.around inner, []⟩

def map (image : S → T) (feed : Feed S) : Feed T := ⟨feed.normalizer.map image, feed.taken⟩

variable [Sink S] [Sink T]

/-- Let one thing happen. -/
def handle (feed : Feed S) : Handling S → Feed S
  | .offer word =>
      if Sink.ready feed.normalizer then
        ⟨Sink.push feed.normalizer word, feed.taken ++ [word]⟩
      else
        feed
  | .tick => { feed with normalizer := Sink.tick feed.normalizer }
  | .change alteration => { feed with normalizer.inner := alteration feed.normalizer.inner }

/-- One if a handling is a tick that finds the sink behind ready. -/
def chance (feed : Feed S) : Handling S → Nat
  | .tick => if Sink.ready feed.normalizer.inner then 1 else 0
  | _ => 0

/-- The ticks among further handlings that find the sink behind ready. -/
def chances (feed : Feed S) : List (Handling S) → Nat
  | [] => 0
  | handling :: further => feed.chance handling + (feed.handle handling).chances further

def run (inner : S) (handlings : List (Handling S)) : Feed S :=
  handlings.foldl handle (start inner)

def observed (inner : S) (handlings : List (Handling S)) : Feed (Observed S) :=
  run (.fresh inner) (handlings.map Handling.observed)

/-- The sink behind has the normalised frames of the words taken. -/
structure Normalized (feed : Feed (Observed S)) : Prop where
  account : feed.normalizer.inner.words ++ owed feed.normalizer.stage =
    (complete Word.last feed.taken).flatMap whole ++ begun (remainder Word.last feed.taken)
  /-- While words are owed, no frame is open and no word is taken. -/
  waiting : owed feed.normalizer.stage ≠ [] →
    remainder Word.last feed.taken = [] ∧ Sink.ready feed.normalizer = false
  /-- While none is owed, words are taken whenever the sink behind is ready. -/
  accepting : owed feed.normalizer.stage = [] →
    Sink.ready feed.normalizer.inner = true → Sink.ready feed.normalizer = true
  /-- A tick hands over the next owed word if the sink behind is ready, and otherwise none. -/
  tick : (feed.handle .tick).normalizer.inner.words =
    feed.normalizer.inner.words ++ feed.normalizer.handed
  /-- Words are passed on only in readiness. -/
  ready : ∀ arrival ∈ feed.normalizer.inner.arrivals, arrival.ready = true

end Feed

namespace Feed

variable {S : Type} [Sink S]

/-- What holds in front of a sink holds after everything that happens there. -/
theorem normalizes_handle {relation : S → List Word → Prop} (tracks : Tracks relation)
    {feed : Feed S} (handling : Handling S)
    (keeps : ∀ alteration, handling = .change alteration →
      ∀ inner words, relation inner words → relation (alteration inner) words)
    (normalizes : feed.normalizer.Normalizes relation feed.taken) :
    (feed.handle handling).normalizer.Normalizes relation (feed.handle handling).taken := by
  have tracksFeed := Normalizer.tracks_normalizes tracks
  cases handling with
  | offer word =>
      simp only [handle]
      split
      · rename_i isReady
        exact tracksFeed.push word normalizes isReady
      · exact normalizes
  | tick => exact tracksFeed.tick normalizes
  | change alteration =>
      obtain ⟨passed, related, accounts⟩ := normalizes
      exact ⟨passed, keeps alteration rfl _ _ related, accounts⟩

/-- Forgetting the observation behind a handling is the handling itself. -/
theorem handle_observed (feed : Feed (Observed S)) (handling : Handling S) :
    (feed.handle handling.observed).map Observed.sink =
      (feed.map Observed.sink).handle handling := by
  have faithful := Normalizer.faithful_map (Observed.faithful_sink S)
  cases handling with
  | offer word =>
      simp only [handle, Handling.observed, map, faithful.ready, faithful.push]
      split <;> rfl
  | tick => simp only [handle, Handling.observed, map, faithful.tick]
  | change alteration => rfl

/-- The sink behind an observed feed goes on to receive what becomes of the words taken. -/
theorem normalizes_observed {feed : Feed (Observed S)} (handling : Handling S)
    (normalizes : feed.normalizer.Normalizes Observed.Received feed.taken) :
    (feed.handle handling.observed).normalizer.Normalizes Observed.Received
      (feed.handle handling.observed).taken := by
  refine normalizes_handle (Observed.tracks_received S) handling.observed ?_ normalizes
  intro alteration same sink words received
  cases handling with
  | offer => cases same
  | tick => cases same
  | change =>
      cases same
      exact received

/-- The sink behind an observed feed has received what becomes of the words taken. -/
theorem observed_normalizes (inner : S) (handlings : List (Handling S)) :
    (observed inner handlings).normalizer.Normalizes Observed.Received
      (observed inner handlings).taken := by
  have initially : (start (.fresh inner)).normalizer.Normalizes Observed.Received
      (start (Observed.fresh inner)).taken :=
    Normalizer.normalizes_around (Observed.received_fresh inner)
  refine List.foldlRecOn (handlings.map Handling.observed) handle
    (motive := fun feed => feed.normalizer.Normalizes Observed.Received feed.taken) initially ?_
  intro feed held handling membership
  obtain ⟨original, _, rfl⟩ := List.mem_map.mp membership
  exact normalizes_observed original held

/-- A feed that is observed shows what it does unobserved. -/
theorem map_observed (inner : S) (handlings : List (Handling S)) :
    (observed inner handlings).map Observed.sink = run inner handlings := by
  unfold observed run
  rw [List.foldl_map]
  refine (List.foldl_hom (map Observed.sink) ?_).symm
  intro feed handling
  exact (feed.handle_observed handling).symm

theorem observed_append (inner : S) (handlings further : List (Handling S)) :
    observed inner (handlings ++ further) =
      (further.map Handling.observed).foldl handle (observed inner handlings) := by
  rw [observed, observed, run, run, List.map_append, List.foldl_append]

/-- Observation changes nothing in when the sink behind is ready. -/
theorem chances_observed (feed : Feed (Observed S)) (further : List (Handling S)) :
    feed.chances (further.map Handling.observed) = (feed.map Observed.sink).chances further := by
  induction further generalizing feed with
  | nil => rfl
  | cons handling further ih =>
      have same : feed.chance handling.observed = (feed.map Observed.sink).chance handling := by
        cases handling <;> rfl
      rw [List.map_cons, chances, chances, ih, handle_observed, same]

/-- A tick hands over what there is a chance for, and that is no longer owed. -/
theorem tick_delivers {feed : Feed (Observed S)}
    (normalizes : feed.normalizer.Normalizes Observed.Received feed.taken) :
    (feed.handle .tick).normalizer.inner.words =
        feed.normalizer.inner.words ++ feed.normalizer.handed ∧
      feed.normalizer.handed = (owed feed.normalizer.stage).take (feed.chance .tick) ∧
      owed (feed.handle .tick).normalizer.stage =
        (owed feed.normalizer.stage).drop (feed.chance .tick) := by
  obtain ⟨passed, _, accounts⟩ := normalizes
  obtain ⟨inner, split⟩ := Normalizer.handed_tick accounts
  have handed : feed.normalizer.handed =
      (owed feed.normalizer.stage).take (feed.chance .tick) := by
    unfold Normalizer.handed chance
    split
    · rfl
    · exact List.take_zero.symm
  refine ⟨?_, handed, ?_⟩
  · change (Sink.tick feed.normalizer).inner.words = _
    rw [inner, Observed.words_tick, Observed.words_foldl_push]
  · rw [← List.take_append_drop (feed.chance .tick) (owed feed.normalizer.stage), ← handed]
      at split
    exact List.append_cancel_left split

/-- What happens next hands over what there is a chance for, or finds nothing owed. -/
theorem handle_delivers {feed : Feed (Observed S)} (handling : Handling S)
    (normalizes : feed.normalizer.Normalizes Observed.Received feed.taken) :
    (feed.handle handling.observed).normalizer.inner.words =
          feed.normalizer.inner.words ++
            (owed feed.normalizer.stage).take (feed.chance handling.observed) ∧
        owed (feed.handle handling.observed).normalizer.stage =
          (owed feed.normalizer.stage).drop (feed.chance handling.observed) ∨
      owed feed.normalizer.stage = [] ∧
        feed.normalizer.inner.words <+:
          (feed.handle handling.observed).normalizer.inner.words := by
  cases handling with
  | offer word =>
      simp only [handle, Handling.observed, chance, List.take_zero, List.drop_zero,
        List.append_nil]
      split
      -- A word is taken only where none is owed.
      · rename_i isReady
        obtain ⟨settled, _⟩ := Normalizer.ready_spec isReady word
        obtain ⟨_, discarded, passed⟩ := feed.normalizer.push_spec word
        refine Or.inr ⟨settled, ?_⟩
        cases result : (Normalizer.accept word feed.normalizer.stage).1 with
        | none => exact ⟨[], by rw [discarded result, List.append_nil]⟩
        | some out =>
            rw [passed out result, Observed.words_push]
            exact List.prefix_append _ _
      · exact Or.inl ⟨rfl, rfl⟩
  | tick =>
      obtain ⟨words, handed, rest⟩ := tick_delivers normalizes
      rw [handed] at words
      exact Or.inl ⟨words, rest⟩
  | change alteration => exact Or.inl ⟨(List.append_nil _).symm, rfl⟩

/-- In further handlings the sink behind gets the owed words that there are chances for. -/
theorem foldl_delivers {feed : Feed (Observed S)} (further : List (Handling S))
    (normalizes : feed.normalizer.Normalizes Observed.Received feed.taken) :
    feed.normalizer.inner.words ++
        (owed feed.normalizer.stage).take (feed.chances (further.map Handling.observed)) <+:
      ((further.map Handling.observed).foldl handle feed).normalizer.inner.words := by
  induction further generalizing feed with
  | nil => simp [chances]
  | cons handling further ih =>
      have later := ih (normalizes_observed handling normalizes)
      rw [List.map_cons, chances, List.foldl_cons]
      rcases handle_delivers handling normalizes with ⟨words, rest⟩ | ⟨settled, grown⟩
      · rw [words, rest, List.append_assoc, ← List.take_add] at later
        exact later
      · rw [settled, List.take_nil, List.append_nil]
        exact (grown.trans (List.prefix_append _ _)).trans later

theorem Normalized.of_normalizes {feed : Feed (Observed S)}
    (normalizes : feed.normalizer.Normalizes Observed.Received feed.taken) : feed.Normalized := by
  obtain ⟨handed, _⟩ := tick_delivers normalizes
  obtain ⟨passed, ⟨words, ready⟩, accounts⟩ := normalizes
  refine ⟨?_, ?_, Normalizer.ready_of_settled, handed, ready⟩
  · rw [words]
    exact accounts.account
  · intro unsettled
    exact ⟨accounts.fits.eq_nil unsettled, Normalizer.not_ready_of_owed unsettled⟩

/--
Whatever words are offered, whatever the sink behind does and whatever ticks
pass, that sink has the normalised frames of the words taken, but for words
still owed.  However it goes on, each tick that finds the sink ready hands one
of these over.  Observing it has changed nothing.
-/
theorem observed_normalized (inner : S) (handlings : List (Handling S)) :
    (observed inner handlings).map Observed.sink = run inner handlings ∧
      (observed inner handlings).Normalized ∧
      ∀ further : List (Handling S),
        (observed inner handlings).normalizer.inner.words ++
            (owed (observed inner handlings).normalizer.stage).take
              ((run inner handlings).chances further) <+:
          (observed inner (handlings ++ further)).normalizer.inner.words := by
  have normalizes := observed_normalizes inner handlings
  refine ⟨map_observed inner handlings, .of_normalizes normalizes, ?_⟩
  intro further
  rw [observed_append, ← map_observed, ← chances_observed]
  exact foldl_delivers further normalizes

/-- A packet that is declared three words longer than received. -/
def short : List Word :=
  [.full 0, .full 0, .full 0, .full 0x0800, .full 0x45000012, .terminal 0x05ab0000 2]

/-- A sink that is ready in every other tick has the whole frame behind the fifth. -/
theorem observed_normalized_extended :
    let inner := ScriptedSink.ofSchedule (.cycle [true, false])
    let offers : List (Handling ScriptedSink) := short.map .offer
    let ticks : List (Handling ScriptedSink) := List.replicate 5 .tick
    (owed (observed inner offers).normalizer.stage).length = 3 ∧
      (run inner offers).chances ticks = 3 ∧
      whole short <+: (observed inner (offers ++ ticks)).normalizer.inner.words := by
  intro inner offers ticks
  obtain ⟨_, normalized, delivers⟩ := observed_normalized inner offers
  have owes : (owed (observed inner offers).normalizer.stage).length = 3 := by decide +kernel
  have chances : (run inner offers).chances ticks = 3 := by decide +kernel
  refine ⟨owes, chances, ?_⟩
  have taken : (complete Word.last (observed inner offers).taken).flatMap whole ++
      begun (remainder Word.last (observed inner offers).taken) = whole short := by decide +kernel
  have delivered := delivers ticks
  rw [chances, List.take_of_length_le owes.le, normalized.account, taken] at delivered
  exact delivered

end Feed

end FrameRouter
