import FrameRouter.Sink.Basic

/-!
# Observed sinks

An observed sink keeps a record of every word that it is handed and otherwise
behaves as the sink it is made of.  A relation between a sink and the words
handed to it is tracked when taking a word in readiness and letting a tick
pass both keep it.
-/

namespace FrameRouter

/-- A word handed to a sink. -/
structure Arrival where
  /-- Ticks that the sink had passed before. -/
  tick : Nat
  word : Word
  /-- Whether the sink was ready for the word. -/
  ready : Bool
deriving DecidableEq, Repr

/-- A sink together with everything that was handed to it. -/
structure Observed (S : Type) where
  sink : S
  /-- Ticks passed so far. -/
  now : Nat
  /-- Every word handed to the sink, oldest first. -/
  arrivals : List Arrival
deriving DecidableEq, Repr

namespace Observed

variable {S : Type}

/-- A sink to which nothing has been handed yet. -/
def fresh (sink : S) : Observed S := ⟨sink, 0, []⟩

def words (observed : Observed S) : List Word := observed.arrivals.map Arrival.word

/-- A change of the sink from outside; it hands over nothing. -/
def alter (change : S → S) (observed : Observed S) : Observed S :=
  { observed with sink := change observed.sink }

instance [Sink S] : Sink (Observed S) where
  ready := fun observed => Sink.ready observed.sink
  push := fun observed word =>
    { observed with
      sink := Sink.push observed.sink word
      arrivals := observed.arrivals ++ [⟨observed.now, word, Sink.ready observed.sink⟩] }
  tick := fun observed =>
    { observed with sink := Sink.tick observed.sink, now := observed.now + 1 }
  isIdle := fun observed => Sink.isIdle observed.sink

variable [Sink S]

@[simp]
theorem words_tick (observed : Observed S) : (Sink.tick observed).words = observed.words := rfl

@[simp]
theorem words_push (observed : Observed S) (word : Word) :
    (Sink.push observed word).words = observed.words ++ [word] := by
  change (observed.arrivals ++ [_]).map Arrival.word = _
  rw [List.map_append]
  rfl

theorem words_foldl_push (observed : Observed S) (words : List Word) :
    (words.foldl Sink.push observed).words = observed.words ++ words := by
  induction words generalizing observed with
  | nil => exact (List.append_nil _).symm
  | cons word words ih => rw [List.foldl_cons, ih, words_push, List.append_assoc]; rfl

end Observed

/-- A relation between a sink and the words handed to it, kept by the work of the sink. -/
structure Tracks {S : Type} [Sink S] (relation : S → List Word → Prop) : Prop where
  push : ∀ {sink words} (word : Word), relation sink words → Sink.ready sink = true →
    relation (Sink.push sink word) (words ++ [word])
  tick : ∀ {sink words}, relation sink words → relation (Sink.tick sink) words

/-- A sink of which nothing is to be known. -/
theorem Tracks.trivial {S : Type} [Sink S] : Tracks fun (_ : S) (_ : List Word) => True :=
  ⟨fun _ _ _ => True.intro, fun _ => True.intro⟩

/-- The words handed to an observed sink, each of them in readiness. -/
def Observed.Received {S : Type} (observed : Observed S) (words : List Word) : Prop :=
  observed.words = words ∧ ∀ arrival ∈ observed.arrivals, arrival.ready = true

theorem Observed.received_fresh {S : Type} (sink : S) : (Observed.fresh sink).Received [] := by
  refine ⟨rfl, ?_⟩
  intro arrival membership
  cases membership

/-- Words that are pushed in readiness are received. -/
theorem Observed.tracks_received (S : Type) [Sink S] :
    Tracks (Observed.Received : Observed S → List Word → Prop) where
  push := by
    rintro observed words word ⟨same, earlier⟩ isReady
    refine ⟨by rw [words_push, same], ?_⟩
    intro arrival membership
    rcases List.mem_append.mp membership with before | this
    · exact earlier arrival before
    · rw [List.mem_singleton.mp this]
      exact isReady
  tick := by
    rintro observed words ⟨same, earlier⟩
    exact ⟨same, earlier⟩

/-- A function between sinks that keeps everything a router can see and do. -/
structure Sink.Faithful {S T : Type} [Sink S] [Sink T] (image : S → T) : Prop where
  ready : ∀ sink, Sink.ready (image sink) = Sink.ready sink
  push : ∀ sink word, Sink.push (image sink) word = image (Sink.push sink word)
  tick : ∀ sink, Sink.tick (image sink) = image (Sink.tick sink)
  isIdle : ∀ sink, Sink.isIdle (image sink) = Sink.isIdle sink

theorem Observed.faithful_sink (S : Type) [Sink S] :
    Sink.Faithful (Observed.sink : Observed S → S) where
  ready := fun _ => rfl
  push := fun _ _ => rfl
  tick := fun _ => rfl
  isIdle := fun _ => rfl

end FrameRouter
