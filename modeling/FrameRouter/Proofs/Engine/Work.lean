import FrameRouter.Proofs.Engine.Ledger
import FrameRouter.Proofs.Sink.Filling

/-!
# Work

The work on a frame is done piece by piece: its header words are captured, its
route is decided and all of its words leave.  A turn that is not blocked does at
least one piece.  When the terminal word of a frame has left by the fast path,
the words that the frame lacks are owed.
-/

namespace FrameRouter

open Cutting Normalization

/-- The pieces of work on a frame of so many words. -/
def Frame.cost (length : Nat) : Nat := length + min length Header.windowWords + 1

/-- The words that fill up the frame behind the fast path. -/
def Passage.fills (passage : Passage) : Nat :=
  if passage.decision.route = .fast then missing passage.words else 0

namespace Ledger

/-- The pieces of work done on the frame in flight. -/
def begun (ledger : Ledger) : Nat :=
  min ledger.current.length Header.windowWords + ledger.moved.length +
    ledger.decision.toList.length

/-- The pieces of work done so far. -/
def work (ledger : Ledger) : Nat :=
  (ledger.passages.map fun passage => Frame.cost passage.samples.length).sum + ledger.begun

/-- The words that fill up the frames that have left. -/
def fills (ledger : Ledger) : Nat := (ledger.passages.map Passage.fills).sum

/-- The words that become owed as a word leaves. -/
def owing (ledger : Ledger) : Option (Route × Word) → Nat
  | some (.fast, word) => if word.last then missing (ledger.moved ++ [word]) else 0
  | _ => 0

variable {ledger : Ledger} {made : Decision} {word : Word}

/-- The work on the frame in flight does not exceed what the accepted words of it cost. -/
theorem begun_le {S F : Type} {router : Router S F}
    (flight : router.Flight ledger.current ledger.decision ledger.moved) :
    ledger.begun ≤ Frame.cost ledger.current.length ∧
      (ledger.current = [] → ledger.begun = 0) := by
  obtain ⟨passages, current, decision, moved⟩ := ledger
  change router.Flight current decision moved at flight
  have words := congrArg List.length flight.words
  rw [List.length_map, List.length_append] at words
  have once : decision.toList.length ≤ 1 := by cases decision <;> simp
  constructor
  · simp only [begun, Frame.cost]
    omega
  · intro nothing
    change current = [] at nothing
    cases flight with
    | idle => rfl
    | capturing _ _ _ _ nonempty => exact absurd nothing nonempty
    | deciding _ _ complete => exact absurd nothing complete.ne_nil
    | forwarding forwarded => exact absurd nothing forwarded.complete.ne_nil

theorem work_accept_le (ledger : Ledger) (sample : Sample) :
    ledger.work ≤ (ledger.accept sample).work := by
  simp only [work, begun, accept, List.length_append, List.length_singleton]
  omega

/-- A captured word is a piece of work. -/
theorem work_accept {sample : Sample} (short : ledger.current.length < Header.windowWords) :
    (ledger.accept sample).work = ledger.work + 1 := by
  simp only [work, begun, accept, List.length_append, List.length_singleton]
  omega

theorem work_decide (undecided : ledger.decision = none) :
    (ledger.decide made).work = ledger.work + 1 := by
  simp only [work, begun, decide, undecided, Option.toList_none, Option.toList_some,
    List.length_nil, List.length_singleton]
  omega

/-- A word that leaves is a piece of work, and with it the frame may be done. -/
theorem work_leave (leaves : ledger.Leaves made word) :
    (ledger.leave made word).work = ledger.work + 1 := by
  have decided := leaves.decided
  unfold leave
  split
  · rename_i ended
    have all : ledger.current.length = ledger.moved.length + 1 := by
      rw [← List.length_map Sample.word, leaves.all ended, List.length_append,
        List.length_singleton]
    simp only [work, begun, close, move, decided, Frame.cost, List.map_append, List.map_cons,
      List.map_nil, List.sum_append, List.sum_singleton, List.length_nil, Option.toList_none,
      Option.toList_some, List.length_singleton]
    omega
  · simp only [work, begun, move, List.length_append, List.length_singleton]
    omega

theorem fills_leave (leaves : ledger.Leaves made word) :
    (ledger.leave made word).fills = ledger.fills + ledger.owing (some (made.route, word)) := by
  unfold leave
  cases ended : word.last with
  | false => cases made.route <;> simp [fills, move, owing, ended]
  | true =>
      have words : Passage.words ⟨ledger.current, made⟩ = ledger.moved ++ [word] :=
        leaves.all ended
      cases route : made.route <;>
        simp [fills, close, move, owing, ended, Passage.fills, route, words]

namespace Entry

variable {S F : Type} [Sink S] [Sink F] {router : Router S F} {input : Option Word}
  {next : Ledger} {exit : Option (Route × Word)}

/-- Work is done in every turn that is not blocked. -/
theorem work_lt (entry : Entry router input ledger exit next) :
    router.Blocked input ∧ next = ledger ∨ ledger.work < next.work := by
  cases entry with
  | blocked nothing => exact Or.inl ⟨nothing, rfl⟩
  | capture sample undeciding undecided short =>
      right
      rw [work_accept short]
      exact Nat.lt_succ_self _
  | decide deciding undecided =>
      right
      rw [work_decide undecided]
      exact Nat.lt_succ_self _
  | leave made word leaves =>
      right
      rw [work_leave leaves]
      exact Nat.lt_succ_self _
  | exchange made word sample leaves =>
      right
      refine Nat.lt_of_lt_of_le ?_ (work_accept_le _ sample)
      rw [work_leave leaves]
      exact Nat.lt_succ_self _
  | pass made sample filled leaves =>
      right
      rw [work_leave leaves]
      exact Nat.lt_succ_of_le (work_accept_le ledger sample)

/-- No work is undone. -/
theorem work_le (entry : Entry router input ledger exit next) : ledger.work ≤ next.work := by
  rcases entry.work_lt with ⟨_, rfl⟩ | more
  · exact Nat.le_refl _
  · exact more.le

theorem fills_eq (entry : Entry router input ledger exit next) :
    next.fills = ledger.fills + ledger.owing exit := by
  cases entry with
  | blocked => rfl
  | capture => rfl
  | decide => rfl
  | leave made word leaves => exact fills_leave leaves
  | exchange made word sample leaves => exact fills_leave leaves
  | pass made sample filled leaves => exact fills_leave leaves

/-- The frame of which a word leaves is decided and has not been ended by an earlier one. -/
theorem exists_decision {route : Route}
    (entry : Entry router input ledger (some (route, word)) next) :
    ∃ made, ledger.decision = some made ∧ made.route = route ∧ Open Word.last ledger.moved := by
  cases entry with
  | leave made word leaves => exact ⟨made, leaves.decided, rfl, leaves.isOpen⟩
  | exchange made word sample leaves => exact ⟨made, leaves.decided, rfl, leaves.isOpen⟩
  | pass made sample filled leaves => exact ⟨made, leaves.decided, rfl, leaves.isOpen⟩

end Entry

end Ledger

end FrameRouter
