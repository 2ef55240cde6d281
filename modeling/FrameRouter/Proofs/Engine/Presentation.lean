import FrameRouter.Proofs.Engine.Reception

/-!
# Presentation

Frames are pushed into a source and it is advanced word by word, in any order.
The source presents the words of the frames one after the other, none twice and
none left out, and knows where it stands among the frames.
-/

namespace FrameRouter

namespace Source

/-- What is done with a source. -/
inductive Move where
  | push (frame : Frame)
  | advance
deriving DecidableEq, Repr

/-- Whether so many words of some frames reach the end of the frame in a place. -/
def hasEnded (frames : List Frame) (count place : Nat) : Bool :=
  ((frames.take (place + 1)).flatMap Frame.words).length ≤ count

/-- A source with what has been pushed into it and what it has presented. -/
structure Presentation where
  source : Source
  /-- Frames pushed, oldest first. -/
  pushed : List Frame
  /-- Words presented in front of the advances that found one, oldest first. -/
  presented : List Word
deriving DecidableEq, Repr

namespace Presentation

def start : Presentation := ⟨.empty, [], []⟩

/-- The presentation behind a move; an advance may find nothing that is presented. -/
def move (presentation : Presentation) : Move → Presentation
  | .push frame =>
      { presentation with
        source := presentation.source.push frame
        pushed := presentation.pushed ++ [frame] }
  | .advance =>
      { presentation with
        source := presentation.source.advance
        presented := presentation.presented ++ presentation.source.current.toList }

def run (presentation : Presentation) (moves : List Move) : Presentation :=
  moves.foldl move presentation

/-- The presentation of a fresh source behind some moves. -/
def behind (moves : List Move) : Presentation := start.run moves

/-- The frames to be presented: those pushed that have words. -/
def frames (presentation : Presentation) : List Frame := Delivery.proper presentation.pushed

def words (presentation : Presentation) : List Word := presentation.frames.flatMap Frame.words

/-- What can be said of the presentation at any moment. -/
structure Faithful (presentation : Presentation) : Prop where
  begun : presentation.presented <+: presentation.words
  rest : presentation.presented ++ presentation.source.remaining = presentation.words
  /-- If nothing more is pushed, the words that remain are presented one by one. -/
  goingOn : ∀ count, (presentation.run (List.replicate count .advance)).presented =
    presentation.presented ++ presentation.source.remaining.take count
  current : presentation.source.current = none ↔ presentation.source.isEmpty = true
  /-- The frames ahead are the last ones, and the position counts the words taken of the first. -/
  located : ∃ past, presentation.frames = past ++ presentation.source.frames ∧
    presentation.presented.length =
      (past.flatMap Frame.words).length + presentation.source.position
  position : ∀ frame ∈ presentation.source.front?,
    presentation.source.position < frame.length ∧
      presentation.source.current = frame.words[presentation.source.position]?
  /-- The frames of which not all words have been presented. -/
  pending : presentation.source.pending =
    (List.range presentation.frames.length).countP fun place =>
      !hasEnded presentation.frames presentation.presented.length place

end Presentation

variable {source : Source}

/-- What a source presents in advances alone are the words that remain. -/
theorem Presentation.presented_advances {presentation : Presentation}
    (orderly : presentation.source.Orderly) (count : Nat) :
    (presentation.run (List.replicate count .advance)).presented =
      presentation.presented ++ presentation.source.remaining.take count := by
  induction count generalizing presentation with
  | zero => exact (List.append_nil _).symm
  | succ count ih =>
      have further := @ih (presentation.move .advance) orderly.advance
      rw [List.replicate_succ, run, List.foldl_cons]
      refine further.trans ?_
      cases presented : presentation.source.current with
      | none =>
          have nothing := remaining_of_isEmpty (orderly.isEmpty presented)
          simp [move, presented, advance_of_none presented, nothing]
      | some word => simp [move, presented, remaining_advance presented]

/-- The position lies inside the front frame, at the word that is presented. -/
theorem position_lt {frame : Frame} (front : source.front? = some frame) :
    source.position < frame.length ∧ source.current = frame.words[source.position]? := by
  unfold front? at front
  split at front
  · cases front
  · rename_i presenting
    cases front
    have length : 0 < source.upcoming.length := by
      rw [List.length_pos_iff]
      exact fun nothing => presenting (List.isEmpty_iff.mpr nothing)
    simp only [Frame.length, position, current, List.length_append, List.length_reverse]
    refine ⟨by omega, ?_⟩
    rw [List.getElem?_append_right (by simp), List.length_reverse, Nat.sub_self,
      List.head?_eq_getElem?]

/-- The first frame ahead is the one whose words are presented. -/
theorem Orderly.front?_of_head? (orderly : source.Orderly) {frame : Frame}
    (first : source.frames.head? = some frame) : source.front? = some frame := by
  unfold frames at first
  cases front : source.front? with
  | some other =>
      rw [front] at first
      exact first
  | none =>
      have drained : source.upcoming = [] := by
        unfold front? at front
        split at front
        · rename_i empty
          exact List.isEmpty_iff.mp empty
        · cases front
      rw [front, orderly.settled drained] at first
      cases first

/-- If the words end inside the first frame ahead, none of the frames ahead has ended. -/
theorem countP_not_hasEnded {past ahead : List Frame} {count : Nat}
    (first : (past.flatMap Frame.words).length ≤ count)
    (inside : ∀ frame ∈ ahead.head?, count < (past.flatMap Frame.words).length + frame.length) :
    (List.range (past ++ ahead).length).countP (fun place => !hasEnded (past ++ ahead) count place) =
      ahead.length := by
  have none : (List.range past.length).countP
      (fun place => !hasEnded (past ++ ahead) count place) = 0 := by
    refine List.countP_eq_zero.mpr fun place membership => ?_
    have within : place + 1 ≤ past.length := List.mem_range.mp membership
    have split := congrArg (fun frames => (frames.flatMap Frame.words).length)
      (List.take_append_drop (place + 1) past)
    simp only [List.flatMap_append, List.length_append] at split
    rw [hasEnded, List.take_append_of_le_length within, Bool.not_eq_true', decide_eq_false_iff_not,
      not_not]
    omega
  have all : (List.range ahead.length).countP
      ((fun place => !hasEnded (past ++ ahead) count place) ∘ (past.length + ·)) =
        (List.range ahead.length).length := by
    refine List.countP_eq_length.mpr fun offset membership => ?_
    cases ahead with
    | nil => cases List.mem_range.mp membership
    | cons frame others =>
        have begun := inside frame rfl
        unfold Frame.length at begun
        simp only [Function.comp_apply, hasEnded, Bool.not_eq_true', decide_eq_false_iff_not,
          Nat.add_assoc, List.take_length_add_append, List.take_succ_cons, List.flatMap_append,
          List.flatMap_cons, List.length_append]
        omega
  rw [List.length_append, List.range_add, List.countP_append, List.countP_map, none, all,
    List.length_range, Nat.zero_add]

/-- A source that has been fed presents faithfully. -/
theorem Fed.faithful {presentation : Presentation} {past : List Frame}
    (fed : presentation.source.Fed presentation.pushed past presentation.presented) :
    presentation.Faithful := by
  have stream : presentation.presented ++ presentation.source.remaining = presentation.words := by
    rw [fed.stream, Presentation.words, Presentation.frames, ← Delivery.flatten_proper,
      List.flatMap_def]
  have count : presentation.presented.length =
      (past.flatMap Frame.words).length + presentation.source.position := by
    rw [fed.words, List.length_append, List.length_reverse, position]
  constructor
  case begun => exact ⟨_, stream⟩
  case rest => exact stream
  case goingOn => exact Presentation.presented_advances fed.orderly
  case current =>
    refine ⟨fed.orderly.isEmpty, fun isEmpty => ?_⟩
    obtain ⟨upcoming, _⟩ := Bool.and_eq_true_iff.mp isEmpty
    rw [current, List.isEmpty_iff.mp upcoming, List.head?_nil]
  case located => exact ⟨past, fed.given, count⟩
  case position => exact fun frame front => position_lt front
  case pending =>
    -- Only the first frame ahead has been begun, and the position lies inside it.
    have ahead : ∀ frame ∈ presentation.source.frames.head?,
        presentation.presented.length < (past.flatMap Frame.words).length + frame.length := by
      intro frame first
      rw [count]
      exact Nat.add_lt_add_left (position_lt (fed.orderly.front?_of_head? first)).1 _
    have given : presentation.frames = past ++ presentation.source.frames := fed.given
    rw [← length_frames, given]
    exact (countP_not_hasEnded (count ▸ Nat.le_add_right _ _) ahead).symm

namespace Presentation

/-- A move feeds the source, or takes the word that it presents. -/
theorem fed_move {presentation : Presentation} {past : List Frame}
    (fed : presentation.source.Fed presentation.pushed past presentation.presented)
    (move : Move) :
    ∃ further, (presentation.move move).source.Fed (presentation.move move).pushed further
      (presentation.move move).presented := by
  cases move with
  | push frame => exact ⟨past, fed.push frame⟩
  | advance =>
      simp only [Presentation.move]
      cases presented : presentation.source.current with
      | none =>
          rw [advance_of_none presented, Option.toList_none, List.append_nil]
          exact ⟨past, fed⟩
      | some word => exact fed.advance presented

theorem fed_behind (moves : List Move) :
    ∃ past, (behind moves).source.Fed (behind moves).pushed past (behind moves).presented := by
  induction moves using List.reverseRecOn with
  | nil => exact ⟨[], fed_empty⟩
  | append_singleton moves next ih =>
      obtain ⟨past, fed⟩ := ih
      rw [behind, run, List.foldl_append]
      exact fed_move fed next

/--
However pushes and advances follow each other, the words presented so far and
those that remain are the words of the frames, and the source knows its place.
-/
theorem presented_exact (moves : List Move) : (behind moves).Faithful := by
  obtain ⟨past, fed⟩ := fed_behind moves
  exact fed.faithful

end Presentation

end Source

end FrameRouter
