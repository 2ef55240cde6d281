import FrameRouter.Proofs.Engine.Delivery
import FrameRouter.Proofs.Routing.Reference

/-!
# Refinement

When a delivery is done, each outlet has delivered the frames that are due
there.  What is due follows from the frames and the configuration alone, so
that neither the sinks nor the order of steps and visits have a part in it.
-/

namespace FrameRouter

open Cutting

namespace Frame

/-- The reference route under one configuration. -/
def route (config : Config) (frame : Frame) : Route :=
  Route.reference (frame.words.map fun word => ⟨word, config⟩) config.policy

/-- The frame as it stands behind the normalizer. -/
def normalized (frame : Frame) : Frame := ⟨Normalization.whole frame.words⟩

/-- The frames bound for an outlet; a frame without words is bound nowhere. -/
def bound (config : Config) (outlet : Outlet) (frames : List Frame) : List Frame :=
  frames.filter fun frame => (frame.route config).reaches outlet && !frame.isEmpty

/-- The frames due at an outlet. -/
def due (config : Config) (frames : List Frame) : Outlet → List Frame
  | .slow => bound config .slow frames
  | .other => bound config .other frames
  | .fast => (bound config .fast frames).map normalized

end Frame

namespace Delivery

section

variable {S : Type} {holds : List Frame → S → List Word → Prop} {config : Config}
  {frames : List Frame} {delivery : Delivery S} {samples : List Sample}
  {decisions : List Decision} {ledger : Ledger}

/-- Samples of one configuration are determined by their words. -/
theorem samples_of_constant (constant : ∀ sample ∈ samples, sample.config = config) :
    (samples.map Sample.word).map (fun word => ⟨word, config⟩) = samples := by
  rw [List.map_map]
  refine (List.map_congr_left ?_).trans (List.map_id samples)
  intro sample membership
  rw [← constant sample membership]
  rfl

/-- Every frame that has left took its reference route. -/
theorem Accounts.route
    (accounts : Accounts holds config frames delivery samples decisions ledger)
    {passage : Passage} (membership : passage ∈ ledger.passages) :
    passage.decision.route = Frame.route config ⟨passage.words⟩ := by
  have constant : ∀ sample ∈ passage.samples, sample.config = config := by
    intro sample inside
    refine accounts.sampled sample ?_
    rw [accounts.balanced.records.samples]
    exact List.mem_append_left _ (List.mem_flatMap.mpr ⟨passage, membership, inside⟩)
  have policy : passage.decision.policy = config.policy := by
    refine accounts.decided _ ?_
    rw [accounts.balanced.records.decisions]
    exact List.mem_append_left _ (List.mem_map_of_mem membership)
  rw [(accounts.balanced.records.sound passage membership).decided, Frame.route, Passage.words,
    samples_of_constant constant, policy, Route.decide_ofSamples]

/-- The frames that have words. -/
def proper (frames : List Frame) : List Frame := frames.filter fun frame => !frame.isEmpty

theorem proper_append (frames further : List Frame) :
    proper (frames ++ further) = proper frames ++ proper further := List.filter_append frames further

/-- Frames without words add nothing to the stream. -/
theorem flatten_proper (frames : List Frame) :
    ((proper frames).map Frame.words).flatten = frames.flatMap Frame.words := by
  have nonempty : (proper frames).map Frame.words =
      (frames.map Frame.words).filter fun words => !words.isEmpty := by
    rw [List.filter_map]
    rfl
  rw [nonempty, List.flatten_filter_not_isEmpty, ← List.flatMap_def]

/-- The frames with words are those that have left, the one in flight and those at the source. -/
theorem Accounts.ahead
    (accounts : Accounts holds config frames delivery samples decisions ledger)
    (isSealed : ∀ frame ∈ proper frames, Frame.Sealed frame.words) :
    ∃ rest, proper frames =
        ledger.passages.map (fun passage => (⟨passage.words⟩ : Frame)) ++ rest ∧
      (rest.map Frame.words).flatten =
        ledger.current.map Sample.word ++ delivery.session.source.remaining := by
  have words := accounts.words
  rw [accounts.balanced.records.samples, List.map_append, List.map_flatMap, List.append_assoc]
    at words
  have streams : (ledger.passages.map Passage.words).flatten ++
      (ledger.current.map Sample.word ++ delivery.session.source.remaining) =
        ((proper frames).map Frame.words).flatten := by
    rw [flatten_proper]
    exact (congrArg (· ++ _) List.flatMap_def.symm).trans words
  have passagesWhole : ∀ frame ∈ ledger.passages.map Passage.words, Whole Word.last frame := by
    intro frame membership
    obtain ⟨passage, listed, rfl⟩ := List.mem_map.mp membership
    exact (accounts.balanced.records.sound passage listed).whole.map fun _ => rfl
  have framesWhole : ∀ words ∈ (proper frames).map Frame.words, Whole Word.last words := by
    intro words membership
    obtain ⟨frame, listed, rfl⟩ := List.mem_map.mp membership
    exact (isSealed frame listed).whole
  -- The stream of the frames has only one cutting, and the frames that have left begin it.
  have cut : (proper frames).map Frame.words = ledger.passages.map Passage.words ++
      pieces Word.last (ledger.current.map Sample.word ++ delivery.session.source.remaining) := by
    rw [← pieces_flatten_append passagesWhole, streams, pieces_flatten framesWhole]
  obtain ⟨left, rest, split, leftWords, restWords⟩ := List.map_eq_append_iff.mp cut
  refine ⟨rest, ?_, ?_⟩
  · have frames := congrArg (List.map Frame.mk) leftWords
    rw [List.map_map, List.map_map] at frames
    rw [split]
    exact congrArg (· ++ rest) ((List.map_id left).symm.trans frames)
  · rw [restWords]
    exact List.flatten_splitBy _ _

variable [Sink S]

/-- When a delivery is done, exactly the frames that have words have left. -/
theorem Accounts.passages
    (accounts : Accounts holds config frames delivery samples decisions ledger)
    (isSealed : ∀ frame ∈ proper frames, Frame.Sealed frame.words)
    (done : delivery.session.isDone = true) :
    ledger.decision = none ∧
      ledger.passages.map (fun passage => (⟨passage.words⟩ : Frame)) = proper frames := by
  obtain ⟨drained, idle⟩ := Bool.and_eq_true_iff.mp done
  obtain ⟨phase, _⟩ := Bool.and_eq_true_iff.mp idle
  obtain ⟨current, decision, _⟩ := accounts.balanced.flight.of_idle (beq_iff_eq.mp phase)
  obtain ⟨rest, split, stream⟩ := accounts.ahead isSealed
  rw [current, Source.remaining_of_isEmpty drained] at stream
  have nothing : rest = [] := by
    cases rest with
    | nil => rfl
    | cons frame others =>
        have listed : frame ∈ proper frames := by rw [split]; simp
        exact absurd (List.append_eq_nil_iff.mp stream).1 (isSealed frame listed).whole.ne_nil
  rw [split, nothing, List.append_nil]
  exact ⟨decision, rfl⟩

/-- When a delivery is done, each outlet was handed the words of the frames bound for it. -/
theorem Accounts.handed
    (accounts : Accounts holds config frames delivery samples decisions ledger)
    (isSealed : ∀ frame ∈ proper frames, Frame.Sealed frame.words)
    (done : delivery.session.isDone = true) (outlet : Outlet) :
    ledger.handed outlet = (Frame.bound config outlet frames).flatMap Frame.words := by
  obtain ⟨decision, left⟩ := accounts.passages isSealed done
  have shares : ledger.passages.flatMap (fun passage => passage.handed outlet) =
      (ledger.passages.map fun passage => (⟨passage.words⟩ : Frame)).flatMap fun frame =>
        (frame.route config).share outlet frame.words := by
    rw [List.flatMap_map, List.flatMap_def, List.flatMap_def]
    refine congrArg List.flatten (List.map_congr_left ?_)
    intro passage membership
    rw [Passage.handed, accounts.route membership]
  rw [Ledger.handed, Ledger.inFlight, decision, List.append_nil, shares, left, Route.flatMap_share,
    proper, List.filter_filter]
  rfl

/-- When a delivery is done, each outlet has delivered what is due. -/
theorem Accounts.delivered [Consumer S] (keeps : Consumer.Keeps holds)
    (accounts : Accounts holds config frames delivery samples decisions ledger)
    (isSealed : ∀ frame ∈ proper frames, Frame.Sealed frame.words)
    (done : delivery.session.isDone = true) :
    delivery.delivered = Frame.due config frames := by
  have boundSealed (outlet : Outlet) :
      ∀ frame ∈ Frame.bound config outlet frames, Frame.Sealed frame.words := by
    intro frame membership
    obtain ⟨listed, bound⟩ := List.mem_filter.mp membership
    exact isSealed frame (List.mem_filter.mpr ⟨listed, (Bool.and_eq_true_iff.mp bound).2⟩)
  obtain ⟨slow, other, passed, related, accounted⟩ := accounts.balanced.outlets
  funext outlet
  cases outlet with
  | slow =>
      rw [accounts.handed isSealed done] at slow
      exact (keeps.collect slow).trans (Frame.ofStream_flatMap (boundSealed .slow))
  | other =>
      rw [accounts.handed isSealed done] at other
      exact (keeps.collect other).trans (Frame.ofStream_flatMap (boundSealed .other))
  | fast =>
      rw [accounts.handed isSealed done, List.flatMap_def] at accounted
      have isWhole : ∀ words ∈ (Frame.bound config .fast frames).map Frame.words,
          Whole Word.last words := by
        intro words membership
        obtain ⟨frame, listed, rfl⟩ := List.mem_map.mp membership
        exact (boundSealed .fast frame listed).whole
      obtain ⟨_, idle⟩ := Bool.and_eq_true_iff.mp done
      obtain ⟨_, outletsIdle⟩ := Bool.and_eq_true_iff.mp idle
      obtain ⟨_, fastIdle⟩ := Bool.and_eq_true_iff.mp outletsIdle
      have all := accounted.of_flatten isWhole (Normalizer.owed_of_isIdle fastIdle)
      have normalized : passed =
          ((Frame.bound config .fast frames).map Frame.normalized).flatMap Frame.words := by
        rw [all, List.flatMap_map, List.flatMap_map]
        rfl
      rw [normalized] at related
      refine (keeps.collect related).trans (Frame.ofStream_flatMap ?_)
      intro frame membership
      obtain ⟨source, listed, rfl⟩ := List.mem_map.mp membership
      exact Normalization.sealed_whole (boundSealed .fast source listed)

end

/-- Deliveries over sinks of this kind that get done have delivered what is due. -/
def Refines (S : Type) [Sink S] [Consumer S] : Prop :=
  ∀ (config : Config) (setups : Outlet → Consumer.Setup S) (lists : List (List Word))
    (moves : List (Move S)),
    (run config setups (lists.map Frame.ofWords) moves).session.isDone = true →
      (run config setups (lists.map Frame.ofWords) moves).delivered =
        Frame.due config (lists.map Frame.ofWords)

/-- Two deliveries of the same frames that get done have delivered the same. -/
def Agree (S T : Type) [Sink S] [Consumer S] [Sink T] [Consumer T] : Prop :=
  ∀ (config : Config) (setups : Outlet → Consumer.Setup S)
    (otherSetups : Outlet → Consumer.Setup T) (lists : List (List Word))
    (moves : List (Move S)) (otherMoves : List (Move T)),
    (run config setups (lists.map Frame.ofWords) moves).session.isDone = true →
      (run config otherSetups (lists.map Frame.ofWords) otherMoves).session.isDone = true →
        (run config setups (lists.map Frame.ofWords) moves).delivered =
          (run config otherSetups (lists.map Frame.ofWords) otherMoves).delivered

theorem sealed_of_proper {lists : List (List Word)} {frame : Frame}
    (membership : frame ∈ proper (lists.map Frame.ofWords)) : Frame.Sealed frame.words := by
  obtain ⟨listed, proper⟩ := List.mem_filter.mp membership
  obtain ⟨words, _, rfl⟩ := List.mem_map.mp listed
  refine Frame.sealed_markEnd ?_
  rintro rfl
  cases proper

/-- A kind of sinks of which a relation shows that nothing is lost refines what is due. -/
theorem refines_of_keeps {S : Type} [Sink S] [Consumer S]
    {holds : List Frame → S → List Word → Prop} (keeps : Consumer.Keeps holds) : Refines S := by
  intro config setups lists moves done
  obtain ⟨samples, decisions, ledger, accounts⟩ :=
    accounts_run keeps config setups (lists.map Frame.ofWords) moves
  exact accounts.delivered keeps (fun _ => sealed_of_proper) done

theorem Refines.agree {S T : Type} [Sink S] [Consumer S] [Sink T] [Consumer T]
    (refines : Refines S) (otherRefines : Refines T) : Agree S T := by
  intro config setups otherSetups lists moves otherMoves done otherDone
  rw [refines config setups lists moves done,
    otherRefines config otherSetups lists otherMoves otherDone]

/--
Over queues and over scripted sinks, deliveries that get done have delivered
what is due, and therefore the same.
-/
theorem refinement :
    Refines Queue ∧ Refines ScriptedSink ∧ Agree Queue Queue ∧
      Agree ScriptedSink ScriptedSink ∧ Agree Queue ScriptedSink := by
  have queues : Refines Queue := refines_of_keeps Queue.keeps_holds
  have scripted : Refines ScriptedSink := refines_of_keeps ScriptedSink.keeps_holds
  exact ⟨queues, scripted, queues.agree queues, scripted.agree scripted, queues.agree scripted⟩

/-- A station with one service that copies broadcasts to its peer. -/
def station : Config :=
  { Config.default with
    ip := .ofBytes 10 0 0 1
    servicePorts := (4000, 0)
    forwardBroadcast := true }

/-- The words of a broadcast frame that ends within the header. -/
def announcement : List Word := [.full 0xffff, .full 0xffffffff, .terminal 0x02000000 2]

/-- The words of a datagram for the service, cut off in front of its declared end. -/
def datagram : List Word :=
  [.full 0x0200, .full 1, .full 0x02000000, .full 0x00020800, .full 0x45000028, .full 0,
    .full 0x40110000, .full 0x0a000002, .full 0x0a000001, .full 0x13880fa0, .full 0x00140000,
    .terminal 0x12345678 3]

/-- Fifty steps, behind each of which all queues are drained. -/
def rounds : List (Move Queue) :=
  (List.replicate 50 [.step, .visit .slow (), .visit .other (), .visit .fast ()]).flatten

/-- Through queues of one word, frames of both kinds come out where they are due. -/
theorem refinement_narrow :
    let delivery := run station (fun _ => (1 : Nat))
      ([announcement, [], datagram].map Frame.ofWords) rounds
    delivery.session.isDone = true ∧
      delivery.delivered .slow = [.ofWords announcement] ∧
      delivery.delivered .other = [.ofWords announcement] ∧
      delivery.delivered .fast = [(Frame.ofWords datagram).normalized] ∧
      (Frame.ofWords datagram).normalized.length = datagram.length + 2 := by
  intro delivery
  have done : delivery.session.isDone = true := by decide +kernel
  have delivered : delivery.delivered = _ :=
    refinement.1 station (fun _ => (1 : Nat)) [announcement, [], datagram] rounds done
  refine ⟨done, ?_, ?_, ?_, by decide +kernel⟩
  · rw [delivered]
    decide +kernel
  · rw [delivered]
    decide +kernel
  · rw [delivered]
    decide +kernel

end Delivery

end FrameRouter
