import FrameRouter.Proofs.Engine.Phases
import Mathlib.Data.List.DropRight

/-!
# A ring in place of a queue

Whatever is asked of a capture ring, it replies like a plain list of at most
thirteen words, however often its places are used again.  The number of words
captured is that of the words stored since the last reset.
-/

namespace FrameRouter

namespace CaptureRing

/-- What may be asked of a store of words. -/
inductive Request where
  | push (word : Word)
  | pop
  | front
  | reset
deriving DecidableEq, Repr

/-- What is replied. -/
inductive Reply where
  /-- Whether the word has been stored. -/
  | stored (accepted : Bool)
  /-- The oldest word, if one waits. -/
  | oldest (found : Option Word)
  | done
deriving DecidableEq, Repr

/-- What a store of words has been asked, and what it has become. -/
structure Dialogue (σ : Type) where
  state : σ
  /-- Requests with their replies, oldest first. -/
  history : List (Request × Reply)
deriving DecidableEq, Repr

namespace Dialogue

variable {σ τ : Type} {dialogue final : Dialogue σ}

/-- The store seen in another way. -/
def view (see : σ → τ) (dialogue : Dialogue σ) : Dialogue τ := ⟨see dialogue.state, dialogue.history⟩

variable (reply? : σ → Request → Option (Reply × σ)) (other? : τ → Request → Option (Reply × τ))

/-- Ask once more; there is no dialogue behind a request that is refused. -/
def ask? (dialogue : Dialogue σ) (request : Request) : Option (Dialogue σ) :=
  (reply? dialogue.state request).map fun answer =>
    ⟨answer.2, dialogue.history ++ [(request, answer.1)]⟩

def run? (dialogue : Dialogue σ) (requests : List Request) : Option (Dialogue σ) :=
  requests.foldlM (ask? reply?) dialogue

/-- The dialogue with a fresh store. -/
def behind? (start : σ) (requests : List Request) : Option (Dialogue σ) :=
  run? reply? ⟨start, []⟩ requests

variable {reply? other?}

/-- Stores that reply alike to one request do so to any number. -/
theorem view_run? {see : σ → τ}
    (alike : ∀ state request,
      (reply? state request).map (Prod.map id see) = other? (see state) request)
    (dialogue : Dialogue σ) (requests : List Request) :
    (run? reply? dialogue requests).map (view see) = run? other? (dialogue.view see) requests := by
  unfold run?
  induction requests generalizing dialogue with
  | nil => rfl
  | cons request requests ih =>
      have once : (dialogue.view see).ask? other? request =
          (dialogue.ask? reply? request).map (view see) := by
        rw [ask?, view, ← alike, ask?, Option.map_map, Option.map_map]
        rfl
      rw [List.foldlM_cons, List.foldlM_cons, once]
      cases dialogue.ask? reply? request with
      | none => rfl
      | some next => exact ih next

/-- What every reply preserves holds behind any number of requests. -/
theorem run?_induction {motive : Dialogue σ → Prop}
    (step : ∀ dialogue, motive dialogue → ∀ request reply next,
      reply? dialogue.state request = some (reply, next) →
        motive ⟨next, dialogue.history ++ [(request, reply)]⟩)
    (initial : motive dialogue) {requests : List Request}
    (run : run? reply? dialogue requests = some final) : motive final := by
  unfold run? at run
  induction requests generalizing dialogue with
  | nil =>
      cases run
      exact initial
  | cons request requests ih =>
      rw [List.foldlM_cons] at run
      obtain ⟨next, asked, further⟩ := Option.bind_eq_some_iff.mp run
      obtain ⟨answer, replied, rfl⟩ := Option.map_eq_some_iff.mp asked
      exact ih (step dialogue initial request answer.1 answer.2 replied) further

end Dialogue

/-- The reply of a ring, and the ring behind it.  While words wait a reset is refused. -/
def reply? (ring : CaptureRing) : Request → Option (Reply × CaptureRing)
  | .push word => some (.stored (ring.push word).1, (ring.push word).2)
  | .pop => some (.oldest ring.front?, ring.pop)
  | .front => some (.oldest ring.front?, ring)
  | .reset => ring.renew?.map fun renewed => (.done, renewed)

/-- The reply of a queue of at most thirteen words that is the list of them, oldest first. -/
def Lineup.reply? (waiting : List Word) : Request → Option (Reply × List Word)
  | .push word =>
      if waiting.length < 13 then some (.stored true, waiting ++ [word])
      else some (.stored false, waiting)
  | .pop => some (.oldest waiting.head?, waiting.tail)
  | .front => some (.oldest waiting.head?, waiting)
  | .reset => if waiting = [] then some (.done, []) else none

section Replies

variable (ring : CaptureRing) (word : Word)

theorem push_of_room (room : ring.size < slotCount) :
    ring.reply? (.push word) = some (.stored true, (ring.push word).2) := by
  simp [reply?, push, room]

/-- A full ring stays as it is. -/
theorem push_of_full (full : ¬ring.size < slotCount) :
    ring.reply? (.push word) = some (.stored false, ring) := by
  simp [reply?, push, full]

theorem toList_eq_nil_iff : ring.toList = [] ↔ ring.size = 0 := by
  rw [← length_toList, List.length_eq_zero_iff]

/-- To a single request a ring replies like the list of its words. -/
theorem map_toList_reply? (request : Request) :
    (ring.reply? request).map (Prod.map id toList) = Lineup.reply? ring.toList request := by
  cases request with
  | push word =>
      have capacity : slotCount = 13 := rfl
      by_cases room : ring.size < slotCount
      · rw [push_of_room ring word room, Option.map_some, Prod.map_apply, toList_push ring word room,
          Lineup.reply?, length_toList, ← capacity, if_pos room]
        rfl
      · rw [push_of_full ring word room, Option.map_some, Prod.map_apply,
          Lineup.reply?, length_toList, ← capacity, if_neg room]
        rfl
  | pop =>
      rw [Lineup.reply?, ← front?_eq, ← toList_pop]
      rfl
  | front =>
      rw [Lineup.reply?, ← front?_eq]
      rfl
  | reset =>
      by_cases empty : ring.size = 0
      · rw [Lineup.reply?, if_pos (ring.toList_eq_nil_iff.mpr empty)]
        simp only [reply?, renew?, if_pos empty]
        rfl
      · rw [Lineup.reply?, if_neg (mt ring.toList_eq_nil_iff.mp empty)]
        simp only [reply?, renew?, if_neg empty]
        rfl

end Replies

section History

/-- The word that a request has stored. -/
def storedWord? : Request × Reply → Option Word
  | (.push word, .stored true) => some word
  | _ => none

/-- The word that a request has popped. -/
def poppedWord? : Request × Reply → Option Word
  | (.pop, .oldest found) => found
  | _ => none

/-- What has been asked since the last reset. -/
def sinceReset (history : List (Request × Reply)) : List (Request × Reply) :=
  history.rtakeWhile fun entry => entry.1 ≠ .reset

variable (history : List (Request × Reply)) (reply : Reply)

theorem sinceReset_concat {request : Request} (other : request ≠ .reset) :
    sinceReset (history ++ [(request, reply)]) = sinceReset history ++ [(request, reply)] :=
  List.rtakeWhile_concat_pos _ _ _ (by simpa using other)

theorem sinceReset_reset : sinceReset (history ++ [(.reset, reply)]) = [] :=
  List.rtakeWhile_concat_neg _ _ _ (by simp)

/-- What a dialogue with a ring tells of the ring. -/
structure Accounted (dialogue : Dialogue CaptureRing) : Prop where
  length : dialogue.state.size = dialogue.state.toList.length
  captured : dialogue.state.captured =
    ((sinceReset dialogue.history).filterMap storedWord?).length
  /-- The words that wait are those stored and not yet popped, oldest first. -/
  unpopped : dialogue.history.filterMap storedWord? =
    dialogue.history.filterMap poppedWord? ++ dialogue.state.toList

variable {dialogue : Dialogue CaptureRing}

namespace Accounted

/-- A request that stores and pops nothing leaves the account as it is. -/
theorem idle (accounted : Accounted dialogue) {request : Request} (reply : Reply)
    (other : request ≠ .reset) (unstored : storedWord? (request, reply) = none)
    (kept : poppedWord? (request, reply) = none) :
    Accounted ⟨dialogue.state, dialogue.history ++ [(request, reply)]⟩ := by
  obtain ⟨length, captured, unpopped⟩ := accounted
  refine ⟨length, ?_, ?_⟩
  · rw [sinceReset_concat _ reply other, List.filterMap_append, List.filterMap_cons_none unstored,
      List.filterMap_nil, List.append_nil]
    exact captured
  · rw [List.filterMap_append, List.filterMap_append, List.filterMap_cons_none unstored,
      List.filterMap_cons_none kept, List.filterMap_nil, List.filterMap_nil, List.append_nil,
      List.append_nil]
    exact unpopped

theorem push (accounted : Accounted dialogue) (word : Word)
    (room : dialogue.state.size < slotCount) :
    Accounted ⟨(dialogue.state.push word).2,
      dialogue.history ++ [(.push word, .stored true)]⟩ := by
  obtain ⟨_, captured, unpopped⟩ := accounted
  refine ⟨(length_toList _).symm, ?_, ?_⟩
  · rw [captured_push _ word room, captured, sinceReset_concat _ _ (by simp),
      List.filterMap_append, List.length_append]
    rfl
  · rw [toList_push _ word room, List.filterMap_append, List.filterMap_append, unpopped]
    simp [List.filterMap_cons, storedWord?, poppedWord?]

theorem pop (accounted : Accounted dialogue) :
    Accounted ⟨dialogue.state.pop,
      dialogue.history ++ [(.pop, .oldest dialogue.state.front?)]⟩ := by
  obtain ⟨_, captured, unpopped⟩ := accounted
  refine ⟨(length_toList _).symm, ?_, ?_⟩
  · have same : dialogue.state.pop.captured = dialogue.state.captured := by
      unfold CaptureRing.pop
      split <;> rfl
    rw [same, captured, sinceReset_concat _ _ (by simp), List.filterMap_append]
    simp [List.filterMap_cons, storedWord?]
  · rw [toList_pop, front?_eq, List.filterMap_append, List.filterMap_append, unpopped]
    cases dialogue.state.toList <;> simp [List.filterMap_cons, storedWord?, poppedWord?]

/-- Behind a reset nothing has been captured yet. -/
theorem reset (accounted : Accounted dialogue) (empty : dialogue.state.size = 0) :
    Accounted ⟨dialogue.state.reset, dialogue.history ++ [(.reset, .done)]⟩ := by
  obtain ⟨_, _, unpopped⟩ := accounted
  refine ⟨(length_toList _).symm, ?_, ?_⟩
  · rw [sinceReset_reset]
    rfl
  · rw [dialogue.state.toList_eq_nil_iff.mpr empty] at unpopped
    rw [List.filterMap_append, List.filterMap_append, unpopped]
    simp [List.filterMap_cons, storedWord?, poppedWord?, toList, CaptureRing.reset]

/-- Whatever is asked, the account is carried on. -/
theorem step (accounted : Accounted dialogue) {request : Request} {reply : Reply}
    {next : CaptureRing} (replied : dialogue.state.reply? request = some (reply, next)) :
    Accounted ⟨next, dialogue.history ++ [(request, reply)]⟩ := by
  cases request with
  | push word =>
      by_cases room : dialogue.state.size < slotCount
      · rw [push_of_room _ word room] at replied
        cases replied
        exact accounted.push word room
      · rw [push_of_full _ word room] at replied
        cases replied
        exact accounted.idle _ (by simp) rfl rfl
  | pop =>
      cases replied
      exact accounted.pop
  | front =>
      cases replied
      exact accounted.idle _ (by simp) rfl rfl
  | reset =>
      obtain ⟨renewed, fresh, same⟩ := Option.map_eq_some_iff.mp replied
      cases same
      obtain ⟨empty, same⟩ := Option.ite_none_right_eq_some.mp fresh
      cases same
      exact accounted.reset empty

end Accounted

end History

/--
Asked whatever and however often, a ring replies like the list of at most
thirteen words that it is seen as, and refuses what this list refuses.
-/
theorem fifo_exact (requests : List Request) :
    (Dialogue.behind? reply? .empty requests).map (Dialogue.view toList) =
        Dialogue.behind? Lineup.reply? [] requests ∧
      ∀ dialogue ∈ Dialogue.behind? reply? .empty requests, Accounted dialogue := by
  refine ⟨Dialogue.view_run? map_toList_reply? ⟨empty, []⟩ requests, ?_⟩
  intro dialogue run
  have initial : Accounted ⟨empty, []⟩ := ⟨rfl, rfl, rfl⟩
  exact Dialogue.run?_induction (fun _ accounted _ _ _ replied => accounted.step replied)
    initial run

/-- Fourteen words for thirteen places, and two more when three of them have been popped. -/
def wrapping : List Request :=
  (List.range 14).map (fun place => .push (.full (.ofNat place))) ++
    [.pop, .pop, .pop, .push (.full 14), .push (.full 15), .front]

/-- The last words stand in front of the oldest one, which comes first all the same. -/
theorem fifo_exact_wrapping :
    ∃ dialogue ∈ Dialogue.behind? reply? .empty wrapping,
      dialogue.state.head = 3 ∧ dialogue.state.size = 12 ∧
        dialogue.history.getLast? = some (.front, .oldest (some (.full 3))) ∧
        Accounted dialogue := by
  have asked : (Dialogue.behind? reply? .empty wrapping).any (fun dialogue =>
      dialogue.state.head = 3 ∧ dialogue.state.size = 12 ∧
        dialogue.history.getLast? = some (.front, .oldest (some (.full 3)))) = true := by
    decide +kernel
  obtain ⟨dialogue, run, shown⟩ := (Option.any_eq_true _ _).mp asked
  obtain ⟨head, size, front⟩ := of_decide_eq_true shown
  exact ⟨dialogue, run, head, size, front, (fifo_exact wrapping).2 dialogue run⟩

end CaptureRing

end FrameRouter
