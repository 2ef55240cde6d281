import FrameRouter.Proofs.Frame.Packing
import FrameRouter.Proofs.Sink.Consumer

/-!
# Traffic through a queue

At one end of a queue words are offered, at the other end a consumer draws them
one by one, or drains all that wait.  Whatever the two ends do in turn, words
are handed out in frames as they came in.  Where the consumer stops and goes on
does not show in the frames.
-/

namespace FrameRouter

open Cutting

namespace Word

/-- A word as it stands in a frame: full, unless it is the terminal one. -/
def filled (word : Word) : Word := if word.last then word else { word with bytes := 4 }

end Word

/-- Making a frame of whole words only fills them. -/
theorem Frame.words_ofWords {words : List Word} (whole : Whole Word.last words) :
    (ofWords words).words = words.map Word.filled := by
  obtain ⟨body, final, rfl, isOpen, ended⟩ := whole
  have inside : body.map (fun word => { word with bytes := 4, last := false }) =
      body.map Word.filled := by
    refine List.map_congr_left ?_
    intro word membership
    have unended : word.last = false := isOpen word membership
    simp [Word.filled, unended]
  have last : { final with last := true } = Word.filled final := by
    rw [Word.filled, if_pos ended, ← ended]
  rw [ofWords, markEnd_append, inside, last, List.map_append]
  rfl

namespace Queue

/-- Take the oldest waiting word into the open frame, which it may complete. -/
def draw (queue : Queue) : List Frame × Queue :=
  match queue.pop? with
  | none => ([], queue)
  | some (word, rest) =>
      if word.last then
        ([.ofWords (word :: queue.held).reverse], { rest with held := [] })
      else
        ([], { rest with held := word :: queue.held })

section Drawing

variable {queue : Queue} {word : Word} {rest : List Word}

theorem draw_nil (none : queue.words.toList = []) : queue.draw = ([], queue) := by
  simp only [draw, pop?, none]

theorem draw_cons (waiting : queue.words.toList = word :: rest) :
    queue.draw =
      if word.last then
        ([.ofWords (word :: queue.held).reverse], ⟨queue.capacity, rest.toArray, []⟩)
      else
        ([], ⟨queue.capacity, rest.toArray, word :: queue.held⟩) := by
  simp only [draw, pop?, waiting]

theorem drain_nil (none : queue.words.toList = []) : queue.drain = ([], queue) := by
  obtain ⟨capacity, words, held⟩ := queue
  have empty : words = #[] := Array.toList_eq_nil_iff.mp none
  rw [empty]
  rfl

/-- To drain a queue is to draw a word and to drain what is left. -/
theorem drain_cons (waiting : queue.words.toList = word :: rest) :
    queue.drain = (queue.draw.1 ++ queue.draw.2.drain.1, queue.draw.2.drain.2) := by
  rw [draw_cons waiting]
  simp only [drain, waiting, Reassembly.run]
  split <;> rfl

end Drawing

/-- What happens at the two ends of a queue. -/
inductive Move where
  | offer (word : Word)
  | draw
  | drain
deriving DecidableEq, Repr

/-- A queue with what has passed its two ends. -/
structure Traffic where
  queue : Queue
  /-- Words pushed, oldest first. -/
  pushed : List Word
  /-- Frames handed out, oldest first. -/
  received : List Frame

namespace Traffic

def ofDepth (depth : Nat) : Traffic := ⟨.ofDepth depth, [], []⟩

/-- The traffic behind a move; a word that is offered to a full queue is not pushed. -/
def move (traffic : Traffic) : Move → Traffic
  | .offer word =>
      if Sink.ready traffic.queue then
        { traffic with queue := Sink.push traffic.queue word, pushed := traffic.pushed ++ [word] }
      else
        traffic
  | .draw =>
      { traffic with
        queue := traffic.queue.draw.2
        received := traffic.received ++ traffic.queue.draw.1 }
  | .drain =>
      { traffic with
        queue := traffic.queue.drain.2
        received := traffic.received ++ traffic.queue.drain.1 }

/-- The traffic through a queue of the given depth behind some moves. -/
def behind (depth : Nat) (moves : List Move) : Traffic := moves.foldl move (ofDepth depth)

/-- The words drawn are cut into the frames handed out and the open one; the others wait. -/
structure Sound (depth : Nat) (traffic : Traffic) : Prop where
  within : Within depth traffic.queue
  drawn : ∃ drawn, traffic.pushed = drawn ++ traffic.queue.words.toList ∧
    traffic.received = (complete Word.last drawn).map .ofWords ∧
    traffic.queue.held.reverse = remainder Word.last drawn

namespace Sound

variable {depth : Nat} {traffic : Traffic}

theorem ofDepth (depth : Nat) : Sound depth (.ofDepth depth) := ⟨.ofDepth depth, [], rfl, rfl, rfl⟩

theorem offer (sound : Sound depth traffic) (word : Word) :
    Sound depth (traffic.move (.offer word)) := by
  obtain ⟨within, drawn, pushed, received, held⟩ := sound
  rw [move]
  split
  · rename_i isReady
    refine ⟨within.push word isReady, drawn, ?_, received, held⟩
    have waiting : (Sink.push traffic.queue word).words.toList =
        traffic.queue.words.toList ++ [word] := Array.toList_push
    rw [waiting, ← List.append_assoc, ← pushed]
  · exact ⟨within, drawn, pushed, received, held⟩

theorem draw (sound : Sound depth traffic) : Sound depth (traffic.move .draw) := by
  obtain ⟨within, drawn, pushed, received, held⟩ := sound
  rw [move]
  cases waiting : traffic.queue.words.toList with
  | nil =>
      rw [draw_nil waiting, List.append_nil]
      exact ⟨within, drawn, pushed, received, held⟩
  | cons word rest =>
      have fewer : rest.length ≤ max depth 1 := by
        have length := within.length
        rw [Queue.length, ← Array.length_toList, waiting] at length
        exact (Nat.le_succ _).trans length
      have split : traffic.pushed = (drawn ++ [word]) ++ rest := by
        rw [pushed, waiting, List.append_assoc, List.singleton_append]
      rw [draw_cons waiting]
      cases ended : word.last with
      | false =>
          obtain ⟨frames, further⟩ := complete_append_open drawn ended
          refine ⟨⟨within.capacity, fewer⟩, drawn ++ [word], split, ?_, ?_⟩
          · rw [frames, ← received]
            exact List.append_nil _
          · rw [further, ← held]
            exact List.reverse_cons
      | true =>
          obtain ⟨frames, further⟩ := complete_append_whole drawn ended
          refine ⟨⟨within.capacity, fewer⟩, drawn ++ [word], split, ?_, further.symm⟩
          rw [frames, ← held, List.map_append, ← received, ← List.reverse_cons]
          rfl

/-- A drainage draws as long as words wait. -/
theorem drain (sound : Sound depth traffic) : Sound depth (traffic.move .drain) := by
  generalize count : traffic.queue.words.toList.length = waiting
  induction waiting generalizing traffic with
  | zero =>
      rw [move, drain_nil (List.length_eq_zero_iff.mp count), List.append_nil]
      exact sound
  | succ waiting ih =>
      obtain ⟨word, rest, split⟩ := List.exists_cons_of_length_eq_add_one count
      have drawn : traffic.move .drain = (traffic.move .draw).move .drain := by
        simp only [move, drain_cons split, List.append_assoc]
      rw [drawn]
      refine ih sound.draw ?_
      rw [split, List.length_cons] at count
      change traffic.queue.draw.2.words.toList.length = waiting
      rw [draw_cons split]
      split <;> exact Nat.succ.inj count

theorem move (sound : Sound depth traffic) (next : Move) : Sound depth (traffic.move next) := by
  cases next with
  | offer word => exact sound.offer word
  | draw => exact sound.draw
  | drain => exact sound.drain

/-- Whatever the two ends do, the traffic stays sound. -/
theorem behind (depth : Nat) (moves : List Move) : Sound depth (.behind depth moves) := by
  induction moves using List.reverseRecOn with
  | nil => exact .ofDepth depth
  | append_singleton moves next ih =>
      rw [Traffic.behind, List.foldl_append]
      exact ih.move next

end Sound

/-- What can be said of the traffic through a queue at any moment. -/
structure Faithful (depth : Nat) (traffic : Traffic) : Prop where
  /-- Nothing is lost and nothing changes places; words inside frames are filled. -/
  words : ∃ returned,
    traffic.pushed =
      returned ++ (traffic.queue.held.reverse ++ traffic.queue.words.toList) ∧
    traffic.received.flatMap Frame.words = returned.map Word.filled
  held : ∀ word ∈ traffic.queue.held, word.last = false
  wellFormed : ∀ frame ∈ traffic.received, frame.isWellFormed = true
  bounded : traffic.queue.length ≤ max depth 1
  ready : Sink.ready traffic.queue = true ↔ traffic.queue.length < max depth 1
  /-- With what a drainage still hands out, the frames are those of the words pushed. -/
  frames : traffic.received ++ traffic.queue.drain.1 =
    (complete Word.last traffic.pushed).map .ofWords

/-- Sound traffic is faithful. -/
theorem Sound.faithful {depth : Nat} {traffic : Traffic} (sound : Sound depth traffic) :
    Faithful depth traffic := by
  obtain ⟨_, all, pushed, frames, _⟩ := sound.drain
  have emptied : (traffic.move .drain).queue.words.toList = [] := rfl
  rw [emptied, List.append_nil] at pushed
  obtain ⟨within, drawn, split, received, held⟩ := sound
  obtain ⟨cut, whole, isOpen⟩ := split_stream Word.last drawn
  refine ⟨⟨(complete Word.last drawn).flatten, ?_, ?_⟩, ?_, ?_, within.length, within.ready_iff, ?_⟩
  · rw [held, ← List.append_assoc, ← cut, split]
  · rw [received, List.flatMap_map, List.map_flatten, List.flatMap_def]
    refine congrArg List.flatten (List.map_congr_left ?_)
    exact fun frame membership => Frame.words_ofWords (whole frame membership)
  · intro word membership
    rw [← held] at isOpen
    exact isOpen word (List.mem_reverse.mpr membership)
  · intro frame membership
    rw [received] at membership
    obtain ⟨words, listed, rfl⟩ := List.mem_map.mp membership
    exact (Frame.sealed_markEnd (whole words listed).ne_nil).isWellFormed
  · rw [← pushed] at frames
    exact frames

/--
However words are offered and drawn or drained in turn, nothing is lost, the
queue keeps to its depth, and the frames handed out depend on the words pushed
alone.
-/
theorem reassembly_faithful (depth : Nat) (moves : List Move) : Faithful depth (behind depth moves) :=
  (Sound.behind depth moves).faithful

end Traffic

end Queue

end FrameRouter
