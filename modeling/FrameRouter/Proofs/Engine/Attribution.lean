import FrameRouter.Proofs.Engine.Conservation
import FrameRouter.Proofs.Engine.Handshake

/-!
# Attribution

Every word that a sink has on record belongs to one of the accepted frames.  At
any time the record is made up of the shares of these frames, one behind the
other, and the share of a frame depends on its route and on how far it has left.
-/

namespace FrameRouter

open Cutting Normalization

/-- The words as which a part of a frame comes to the sink behind an outlet. -/
def Outlet.rendered : Outlet → List Word → List Word
  | .fast, part => if part.getLast?.any Word.last then whole part else begun part
  | _, part => part

theorem Outlet.rendered_whole {frame : List Word} (isWhole : Whole Word.last frame) :
    Outlet.rendered .fast frame = whole frame := if_pos isWhole.getLast?_any

theorem Outlet.rendered_open {part : List Word} (isOpen : Open Word.last part) :
    Outlet.rendered .fast part = begun part := by
  rw [rendered, isOpen.getLast?_any]
  rfl

/-- The words that are still owed to the sink behind an outlet. -/
def Outlets.owing {S : Type} (outlets : Outlets S) : Outlet → List Word
  | .fast => owed outlets.fast.stage
  | _ => []

namespace Run

section

variable {S F : Type} [Sink S] [Sink F] (run : Run S F)

/-- The decided frames, each of them as far as it has left. -/
def parts : List (List Word) :=
  run.finished ++ run.router.phase.route?.toList.map fun _ => run.departed

/-- What the sink behind an outlet gets of the decided frames, one by one. -/
def shares (outlet : Outlet) : List (List Word) :=
  List.zipWith (fun part route => route.share outlet (outlet.rendered part)) run.parts run.routes

end

/-- What the sinks have on record, with what they are still owed, are shares of the frames. -/
structure Attributed [Sink S] (run : Run (Observed S) (Normalizer (Observed S))) : Prop where
  finished : ∀ (place : Nat) (frame : List Word), run.finished[place]? = some frame →
    run.frames[place]? = some frame ∧ run.parts[place]? = some frame
  begun : ∀ (place : Nat) (part : List Word), run.parts[place]? = some part →
    ∃ frame, run.frames[place]? = some frame ∧ part <+: frame
  records : ∀ outlet, (run.router.outlets.sink outlet).words ++ run.router.outlets.owing outlet =
    (run.shares outlet).flatten

end Run

namespace Balanced

variable {S F : Type} [Sink S] [Sink F]
  {relation : Outlets S F → (Outlet → List Word) → Prop} {run : Run S F} {ledger : Ledger}

/-- The shares are those of the frames that have left, and of the one in flight if it is decided. -/
theorem shares (balanced : Balanced relation run.router run.samples run.decisions ledger)
    (outlet : Outlet) :
    run.shares outlet =
      ledger.passages.map (fun passage =>
          passage.decision.route.share outlet (outlet.rendered passage.words)) ++
        ledger.decision.toList.map fun decision =>
          decision.route.share outlet (outlet.rendered ledger.moved) := by
  rw [Run.shares, Run.parts, balanced.cut.1, balanced.routes, balanced.departed,
    balanced.flight.route?_eq, List.zipWith_append (by simp)]
  cases ledger.decision <;> simp [List.zipWith_map, List.zipWith_self]

theorem length_parts (balanced : Balanced relation run.router run.samples run.decisions ledger) :
    run.parts.length = run.routes.length := by
  rw [Run.parts, balanced.cut.1, balanced.routes]
  simp

/-- A frame has shares once it is decided, at the outlets of its route. -/
theorem getElem?_shares
    (balanced : Balanced relation run.router run.samples run.decisions ledger)
    (outlet : Outlet) (place : Nat) :
    (run.shares outlet)[place]? = run.routes[place]?.map fun route =>
      route.share outlet (outlet.rendered (run.parts.getD place [])) := by
  have length := balanced.length_parts
  rw [Run.shares, List.getElem?_zipWith, List.getD_eq_getElem?_getD]
  rcases Nat.lt_or_ge place run.routes.length with within | past
  · rw [List.getElem?_eq_getElem within, List.getElem?_eq_getElem (length ▸ within)]
    rfl
  · rw [List.getElem?_eq_none past, List.getElem?_eq_none (length ▸ past)]
    rfl

/-- The shares of an outlet in front of which the words stay as they are. -/
theorem flatten_shares (balanced : Balanced relation run.router run.samples run.decisions ledger)
    {outlet : Outlet} (plain : ∀ part, outlet.rendered part = part) :
    (run.shares outlet).flatten = ledger.handed outlet := by
  rw [balanced.shares, List.flatten_append]
  simp only [plain]
  cases made : ledger.decision <;>
    simp [Ledger.handed, Ledger.inFlight, made, Passage.handed, List.flatMap_def]

/-- The shares of the fast outlet are the normalised words of its frames. -/
theorem flatten_shares_fast
    (balanced : Balanced relation run.router run.samples run.decisions ledger) :
    (run.shares .fast).flatten =
      ((ledger.passages.filter fun passage => passage.decision.route.reaches .fast).map
        Passage.words).flatMap whole ++ begun (ledger.inFlight .fast) := by
  have nothing : begun [] = [] := by decide
  have isOpen := balanced.flight.isOpen_moved
  have shares := Route.flatMap_share (fun passage : Passage => passage.decision.route)
    (fun passage => Outlet.rendered .fast passage.words) .fast ledger.passages
  rw [balanced.shares, List.flatten_append, ← List.flatMap_def, shares, List.flatMap_map]
  congr 1
  · refine List.flatMap_congr ?_
    intro passage membership
    have sound := balanced.records.sound passage (List.mem_filter.mp membership).1
    exact Outlet.rendered_whole (sound.whole.map fun _ => rfl)
  · unfold Ledger.inFlight
    cases ledger.decision with
    | none => exact nothing.symm
    | some made =>
        rw [Option.toList_some, List.map_singleton, List.flatten_singleton,
          Outlet.rendered_open isOpen]
        dsimp only
        unfold Route.share
        split
        · rfl
        · exact nothing.symm

/-- What has left of a decided frame is what the frame begins with. -/
theorem prefix_of_part
    (balanced : Balanced relation run.router run.samples run.decisions ledger) {place : Nat}
    {part : List Word} (listed : run.parts[place]? = some part) :
    ∃ frame, run.frames[place]? = some frame ∧ part <+: frame := by
  rw [Run.parts, balanced.cut.1, balanced.departed, balanced.flight.route?_eq] at listed
  rw [balanced.frames]
  rcases Nat.lt_or_ge place (ledger.passages.map Passage.words).length with left | here
  · rw [List.getElem?_append_left left] at listed ⊢
    exact ⟨part, listed, List.prefix_rfl⟩
  · rw [List.getElem?_append_right here] at listed ⊢
    cases made : ledger.decision with
    | none => simp [made] at listed
    | some decision =>
        have busy : run.router.phase ≠ .idle := fun idle =>
          Option.some_ne_none _ (made.symm.trans (balanced.flight.of_idle idle).2.1)
        rw [made] at listed
        have moved : part = ledger.moved := by simpa using List.mem_of_getElem? listed
        obtain ⟨inside, _⟩ := List.getElem?_eq_some_iff.mp listed
        have first : place - (ledger.passages.map Passage.words).length = 0 := by
          simpa using inside
        refine ⟨ledger.current.map Sample.word, ?_, ?_⟩
        · rw [if_neg busy, first]
          rfl
        · rw [balanced.flight.words, moved]
          exact List.prefix_append _ _

/-- What is on record of observed sinks, and owed, are the shares of the frames. -/
theorem attributed {S : Type} [Sink S] {run : Run (Observed S) (Normalizer (Observed S))}
    (balanced : Balanced (Outlets.Tracked Observed.Received Observed.Received
      (Normalizer.Normalizes Observed.Received)) run.router run.samples run.decisions ledger) :
    run.Attributed := by
  obtain ⟨slow, other, passed, fast, accounts⟩ := balanced.outlets
  refine ⟨?_, ?_, ?_⟩
  · intro place frame listed
    rw [Run.parts, balanced.frames]
    rw [balanced.cut.1] at listed ⊢
    obtain ⟨within, _⟩ := List.getElem?_eq_some_iff.mp listed
    rw [List.getElem?_append_left within, List.getElem?_append_left within]
    exact ⟨listed, listed⟩
  · exact fun _ _ listed => balanced.prefix_of_part listed
  · intro outlet
    cases outlet with
    | slow =>
        rw [balanced.flatten_shares fun _ => rfl]
        exact (List.append_nil _).trans slow.1
    | other =>
        rw [balanced.flatten_shares fun _ => rfl]
        exact (List.append_nil _).trans other.1
    | fast =>
        obtain ⟨frames, rest⟩ :=
          ledger.split_handed balanced.records.sound balanced.flight.isOpen_moved .fast
        have account := accounts.account
        rw [frames, rest] at account
        rw [balanced.flatten_shares_fast, ← account]
        exact congrArg (· ++ _) fast.1

end Balanced

end FrameRouter
