import FrameRouter.Proofs.Engine.Strides

/-!
# The agenda of a stream

Between outlets that are always ready every stride takes one tick, so that the
lengths of the frames alone settle when each word is accepted and when it
leaves.  A frame that ends within the header window is overlapped by the next
one: the tick in which its terminal word leaves accepts the first word of the
next frame.
-/

namespace FrameRouter

namespace Frame

/-- Ticks from the first word of a frame to the first word of the next one. -/
def span (length : Nat) : Nat := cost length - if length ≤ Header.windowWords then 1 else 0

/-- The items that frames contribute, each frame from its onset on. -/
def agenda {α β : Type} (length : α → Nat) (entries : Nat → α → List β) : Nat → List α → List β
  | _, [] => []
  | onset, frame :: frames =>
      entries onset frame ++ agenda length entries (onset + span (length frame)) frames

/-- The ticks in which the words of a frame are accepted: the decision and the replay pause them. -/
def intake (onset : Nat) (words : List Word) : List (Nat × Word) :=
  words.mapIdx fun place word =>
    (onset + place + if place < Header.windowWords then 0 else Header.windowWords + 1, word)

/-- The ticks in which words of a frame of the given length leave by a route. -/
def departure (onset length : Nat) (route : Route) (words : List Word) :
    List (Nat × Route × Word) :=
  words.mapIdx fun place word =>
    (onset + min length Header.windowWords + 1 + place, route, word)

/-- Ticks until the last of the frames has left. -/
def duration (frames : List Frame) : Nat :=
  (frames.map fun frame => cost frame.length).sum -
    frames.dropLast.countP fun frame => frame.length ≤ Header.windowWords

/-- The tick in which the frame behind the given ones begins. -/
def onset (before : List Frame) : Nat := (before.map fun frame => span frame.length).sum

/-- When the words of the frames are accepted. -/
def intakes (frames : List Frame) : List (Nat × Word) :=
  agenda length (fun onset frame => intake onset frame.words) 0 frames

/-- When the words of the frames leave by their routes. -/
def departures (route : Frame → Route) (frames : List Frame) : List (Nat × Route × Word) :=
  agenda length
    (fun onset frame => departure onset frame.length (route frame) frame.words) 0 frames

theorem agenda_append {α β : Type} (length : α → Nat) (entries : Nat → α → List β) (onset : Nat)
    (before after : List α) :
    agenda length entries onset (before ++ after) = agenda length entries onset before ++
      agenda length entries (onset + (before.map fun frame => span (length frame)).sum) after := by
  induction before generalizing onset with
  | nil => rfl
  | cons first before ih =>
      rw [List.cons_append, agenda, ih, agenda, List.append_assoc, List.map_cons, List.sum_cons,
        Nat.add_assoc]

theorem agenda_concat {α β : Type} (length : α → Nat) (entries : Nat → α → List β) (onset : Nat)
    (frames : List α) (frame : α) :
    agenda length entries onset (frames ++ [frame]) =
      agenda length entries onset frames ++
        entries (onset + (frames.map fun frame => span (length frame)).sum) frame := by
  rw [agenda_append, agenda, agenda, List.append_nil]

/-- What a frame contributes from its onset on is on the agenda. -/
theorem mem_agenda {β : Type} {entries : Nat → Frame → List β} {before after : List Frame}
    {frame : Frame} {entry : β} (listed : entry ∈ entries (onset before) frame) :
    entry ∈ agenda length entries 0 (before ++ frame :: after) := by
  rw [agenda_append, Nat.zero_add]
  exact List.mem_append_right _ (List.mem_append_left _ listed)

/-- Frames that contribute the same and last as long have the same agenda. -/
theorem agenda_map {α β γ : Type} {length : α → Nat} {entries : Nat → α → List β}
    {other : γ → Nat} {contributions : Nat → γ → List β} {image : α → γ} {frames : List α}
    (lasts : ∀ frame ∈ frames, other (image frame) = length frame)
    (same : ∀ frame ∈ frames, ∀ onset, contributions onset (image frame) = entries onset frame)
    (onset : Nat) :
    agenda other contributions onset (frames.map image) = agenda length entries onset frames := by
  induction frames generalizing onset with
  | nil => rfl
  | cons frame frames ih =>
      rw [List.map_cons, agenda, agenda, same frame List.mem_cons_self,
        lasts frame List.mem_cons_self,
        ih (fun later listed => lasts later (List.mem_cons_of_mem frame listed))
          fun later listed => same later (List.mem_cons_of_mem frame listed)]

theorem intake_concat (onset : Nat) (words : List Word) (word : Word) :
    intake onset (words ++ [word]) = intake onset words ++
      [(onset + words.length +
        if words.length < Header.windowWords then 0 else Header.windowWords + 1, word)] :=
  List.mapIdx_concat

theorem departure_concat (onset length : Nat) (route : Route) (words : List Word) (word : Word) :
    departure onset length route (words ++ [word]) = departure onset length route words ++
      [(onset + min length Header.windowWords + 1 + words.length, route, word)] :=
  List.mapIdx_concat

/-- Behind the header window the length of a frame does not matter to its departure. -/
theorem departure_of_filled {length : Nat} (filled : Header.windowWords ≤ length) (onset : Nat)
    (route : Route) (words : List Word) :
    departure onset (length + 1) route words = departure onset length route words := by
  unfold departure
  rw [Nat.min_eq_right filled, Nat.min_eq_right (Nat.le_succ_of_le filled)]

/-- The first word of a frame is accepted at its onset. -/
theorem mem_intake_head {words : List Word} {word : Word} (first : words.head? = some word)
    (onset : Nat) : (onset, word) ∈ intake onset words := by
  obtain ⟨rest, rfl⟩ := List.head?_eq_some_iff.mp first
  rw [intake, List.mapIdx_cons]
  exact List.mem_cons_self

/-- Every word of the frames is accepted once. -/
theorem length_intakes (frames : List Frame) :
    (intakes frames).length = (frames.map length).sum := by
  unfold intakes
  generalize 0 = onset
  induction frames generalizing onset with
  | nil => rfl
  | cons frame frames ih =>
      rw [agenda, List.length_append, ih, intake, List.length_mapIdx, List.map_cons, List.sum_cons]
      rfl

/-- The final word of a frame leaves when all words in front of it have left. -/
theorem mem_departure_getLast {words : List Word} {word : Word}
    (final : words.getLast? = some word) (onset length : Nat) (route : Route) :
    (onset + min length Header.windowWords + words.length, route, word) ∈
      departure onset length route words := by
  obtain ⟨body, rfl⟩ := List.getLast?_eq_some_iff.mp final
  rw [departure_concat, List.length_append, List.length_singleton, Nat.add_right_comm,
    Nat.add_assoc]
  exact List.mem_append_right _ (List.mem_singleton_self _)

/-- A frame that ends within the window makes room for the next one as its final word leaves. -/
theorem span_eq (length : Nat) :
    span length = min length Header.windowWords + length +
      if length ≤ Header.windowWords then 0 else 1 := by
  unfold span cost
  split <;> omega

theorem cost_of_within {length : Nat} (within : length ≤ Header.windowWords) :
    cost length = span length + 1 := by
  unfold span
  rw [if_pos within]
  exact (Nat.sub_add_cancel (Nat.le_add_left 1 _)).symm

/-- Spans and overlaps make up the work on the frames. -/
theorem onset_add_countP (frames : List Frame) :
    onset frames + frames.countP (fun frame => frame.length ≤ Header.windowWords) =
      (frames.map fun frame => cost frame.length).sum := by
  unfold onset
  induction frames with
  | nil => rfl
  | cons frame frames ih =>
      have positive : 1 ≤ cost frame.length := Nat.le_add_left 1 _
      simp only [List.map_cons, List.sum_cons, List.countP_cons, decide_eq_true_eq, ← ih, span]
      split <;> omega

/-- Of the last frame all work has to be done, and of the others what is not overlapped. -/
theorem duration_concat (frames : List Frame) (frame : Frame) :
    duration (frames ++ [frame]) = onset frames + cost frame.length := by
  have spans := onset_add_countP frames
  unfold duration
  rw [List.dropLast_concat, List.map_append, List.sum_append, List.map_singleton,
    List.sum_singleton]
  omega

/-- Frames that are still to come last for at least a tick each. -/
theorem duration_cons_le (before : List Frame) (frame : Frame) (after : List Frame) :
    onset before + cost frame.length ≤ duration (before ++ frame :: after) := by
  induction after using List.reverseRecOn with
  | nil => exact (duration_concat before frame).ge
  | append_singleton after last _ =>
      rw [← List.cons_append, ← List.append_assoc, duration_concat, onset, onset, List.map_append,
        List.map_cons, List.sum_append, List.sum_cons]
      have overlapped : cost frame.length ≤ span frame.length + 1 := by
        unfold span
        split <;> omega
      have positive : 1 ≤ cost last.length := Nat.le_add_left 1 _
      omega

end Frame

namespace Ledger

/-- The tick in front of which the frame in flight begins. -/
def onset (ledger : Ledger) : Nat :=
  (ledger.passages.map fun passage => Frame.span passage.samples.length).sum

/-- The ticks that have passed when all work has been done without a pause. -/
def clock (ledger : Ledger) : Nat := ledger.onset + ledger.begun

/-- When the words of the ledger were accepted. -/
def intake (ledger : Ledger) : List (Nat × Word) :=
  Frame.agenda (fun passage : Passage => passage.samples.length)
      (fun onset passage => Frame.intake onset passage.words) 0 ledger.passages ++
    Frame.intake ledger.onset (ledger.current.map Sample.word)

/-- When the words of the ledger left. -/
def departures (ledger : Ledger) : List (Nat × Route × Word) :=
  Frame.agenda (fun passage : Passage => passage.samples.length)
      (fun onset passage => Frame.departure onset passage.samples.length passage.decision.route
        passage.words) 0 ledger.passages ++
    match ledger.decision with
    | some made =>
        Frame.departure ledger.onset ledger.current.length made.route ledger.moved
    | none => []

variable {ledger next : Ledger} {sample : Option Sample} {exit : Option (Route × Word)}

theorem onset_close (ledger : Ledger) (made : Decision) :
    (ledger.close made).onset = ledger.onset + Frame.span ledger.current.length := by
  simp [onset, close]

/-- Closing a frame files what was known of its intake. -/
theorem intake_close (ledger : Ledger) (made : Decision) :
    (ledger.close made).intake = ledger.intake := by
  simp only [intake, close, Frame.agenda_concat, Nat.zero_add, List.map_nil]
  exact List.append_nil _

/-- Closing a frame of which every word has left files its departure. -/
theorem departures_close (ledger : Ledger) {made : Decision}
    (decided : ledger.decision = some made) (all : ledger.current.map Sample.word = ledger.moved) :
    (ledger.close made).departures = ledger.departures := by
  simp only [departures, close, Frame.agenda_concat, Nat.zero_add, decided, List.append_nil]
  rw [← all]
  rfl

theorem intake_accept (ledger : Ledger) (sample : Sample) :
    (ledger.accept sample).intake = ledger.intake ++
      [(ledger.onset + ledger.current.length +
        if ledger.current.length < Header.windowWords then 0 else Header.windowWords + 1,
        sample.word)] := by
  simp only [intake, accept, List.map_append, List.map_singleton, Frame.intake_concat,
    List.length_map, List.append_assoc]
  rfl

/-- While a frame is undecided none of its words leaves. -/
theorem departures_accept_of_undecided (undecided : ledger.decision = none) (sample : Sample) :
    (ledger.accept sample).departures = ledger.departures := by
  simp only [departures, accept, undecided]

theorem length_current {words : List Word} (all : ledger.current.map Sample.word = words) :
    ledger.current.length = words.length := by
  rw [← all, List.length_map]

/-- Of an undecided frame words have been captured, and nothing else has been done. -/
theorem clock_of_undecided (undecided : ledger.decision = none) (unmoved : ledger.moved = []) :
    ledger.clock = ledger.onset + min ledger.current.length Header.windowWords := by
  simp only [clock, begun, undecided, unmoved, Option.toList_none, List.length_nil, Nat.add_zero]

/-- A decided frame has been captured, up to its end or up to the end of the window. -/
theorem clock_of_decided {made : Decision} (decided : ledger.decision = some made) :
    ledger.clock =
      ledger.onset + min ledger.current.length Header.windowWords + 1 + ledger.moved.length := by
  simp only [clock, begun, decided, Option.toList_some, List.length_singleton]
  omega

/-- A word leaves at the time that the clock shows. -/
theorem departures_move {made : Decision} (decided : ledger.decision = some made) (word : Word) :
    (ledger.move word).departures = ledger.departures ++ [(ledger.clock, made.route, word)] := by
  rw [clock_of_decided decided]
  simp only [departures, move, decided, Frame.departure_concat, List.append_assoc]
  rfl

/-- A word that passes through departs like the captured ones in front of it. -/
theorem departures_pass {made : Decision} (decided : ledger.decision = some made)
    (filled : Header.windowWords ≤ ledger.current.length) (sample : Sample) :
    ((ledger.accept sample).move sample.word).departures =
      ledger.departures ++ [(ledger.clock, made.route, sample.word)] := by
  rw [clock_of_decided decided]
  simp only [departures, accept, move, decided, Frame.departure_concat, List.append_assoc,
    List.length_append, List.length_singleton, Frame.departure_of_filled filled,
    Nat.min_eq_right filled]
  rfl

/-- In front of the next frame the clock shows its onset. -/
theorem clock_close (ledger : Ledger) (made : Decision) :
    (ledger.close made).clock = ledger.onset + Frame.span ledger.current.length := by
  rw [← onset_close ledger made]
  exact clock_of_undecided rfl rfl

/-- With the last captured word a frame that has ended within the window is worked off. -/
theorem clock_of_last {made : Decision} {word : Word} (decided : ledger.decision = some made)
    (all : ledger.current.map Sample.word = ledger.moved ++ [word])
    (within : ledger.current.length ≤ Header.windowWords) :
    ledger.clock = ledger.onset + Frame.span ledger.current.length := by
  have length := length_current all
  rw [List.length_append, List.length_singleton] at length
  rw [clock_of_decided decided, Frame.span_eq, if_pos within]
  omega

/-- Behind the replay of the captured words a frame is ahead by the words accepted of it. -/
theorem clock_of_filled {made : Decision} (decided : ledger.decision = some made)
    (all : ledger.current.map Sample.word = ledger.moved)
    (filled : Header.windowWords ≤ ledger.current.length) :
    ledger.clock = ledger.onset + ledger.current.length + (Header.windowWords + 1) := by
  rw [clock_of_decided decided, ← length_current all]
  omega

/-- Every stride takes a tick; only a short frame that none follows ends without an overlap. -/
theorem Stride.clock_eq (stride : ledger.Stride sample exit next) :
    next.clock = ledger.clock + 1 ∨
      (sample = none ∧ next.current = [] ∧ next.decision = none) ∧ next.clock = ledger.clock := by
  cases stride with
  | capture sample undecided unmoved short =>
      left
      have later : (ledger.accept sample).decision = none := undecided
      rw [clock_of_undecided undecided unmoved, clock_of_undecided later unmoved]
      simp only [onset, accept, List.length_append, List.length_singleton]
      omega
  | decide made undecided unmoved =>
      left
      rw [clock_of_undecided undecided unmoved, clock_of_decided rfl]
      simp only [onset, Ledger.decide, unmoved, List.length_nil]
  | replay made word decided =>
      left
      have later : (ledger.move word).decision = some made := decided
      rw [clock_of_decided decided, clock_of_decided later]
      simp only [onset, move, List.length_append, List.length_singleton]
      omega
  | finish made word decided all within =>
      right
      refine ⟨⟨rfl, rfl, rfl⟩, ?_⟩
      rw [clock_close, clock_of_last decided all within]
      rfl
  | exchange made word sample decided all within =>
      left
      have later : (((ledger.move word).close made).accept sample).clock =
          ((ledger.move word).close made).onset + 1 := clock_of_undecided rfl rfl
      rw [later, onset_close, clock_of_last decided all within]
      rfl
  | pass made sample decided all filled =>
      left
      have later : ((ledger.accept sample).move sample.word).decision = some made := decided
      rw [clock_of_decided decided, clock_of_decided later]
      simp only [onset, accept, move, List.length_append, List.length_singleton]
      omega
  | conclude made sample decided all filled =>
      left
      have long : ¬ledger.current.length + 1 ≤ Header.windowWords := by omega
      rw [clock_close, Frame.span_eq, clock_of_filled decided all filled]
      simp only [onset, accept, move, List.length_append, List.length_singleton, long, if_false]
      omega

/-- The sample is accepted at the time that the ledger shows. -/
theorem Stride.intake_eq (stride : ledger.Stride sample exit next) :
    next.intake =
      ledger.intake ++ (sample.map Sample.word).toList.map (Prod.mk ledger.clock) := by
  cases stride with
  | capture sample undecided unmoved short =>
      rw [intake_accept, if_pos short, clock_of_undecided undecided unmoved,
        Nat.min_eq_left short.le]
      rfl
  | decide made undecided unmoved => exact (List.append_nil _).symm
  | replay made word decided => exact (List.append_nil _).symm
  | finish made word decided all within =>
      rw [intake_close]
      exact (List.append_nil _).symm
  | exchange made word sample decided all within =>
      have now : ledger.clock = ((ledger.move word).close made).onset := by
        rw [onset_close]
        exact clock_of_last decided all within
      rw [intake_accept, intake_close, now]
      rfl
  | pass made sample decided all filled =>
      change (ledger.accept sample).intake = _
      rw [intake_accept, if_neg (Nat.not_lt_of_le filled), clock_of_filled decided all filled]
      rfl
  | conclude made sample decided all filled =>
      rw [intake_close]
      change (ledger.accept sample).intake = _
      rw [intake_accept, if_neg (Nat.not_lt_of_le filled), clock_of_filled decided all filled]
      rfl

/-- The word leaves at the time that the ledger shows. -/
theorem Stride.departures_eq (stride : ledger.Stride sample exit next) :
    next.departures = ledger.departures ++ exit.toList.map (Prod.mk ledger.clock) := by
  cases stride with
  | capture sample undecided unmoved short =>
      rw [departures_accept_of_undecided undecided]
      exact (List.append_nil _).symm
  | decide made undecided unmoved =>
      have nothing : (ledger.decide made).departures = ledger.departures := by
        simp only [departures, Ledger.decide, undecided, unmoved]
        rfl
      rw [nothing]
      exact (List.append_nil _).symm
  | replay made word decided => exact departures_move decided word
  | finish made word decided all within =>
      rw [departures_close (ledger.move word) decided all]
      exact departures_move decided word
  | exchange made word sample decided all within =>
      have closed : ((ledger.move word).close made).decision = none := rfl
      rw [departures_accept_of_undecided closed,
        departures_close (ledger.move word) decided all]
      exact departures_move decided word
  | pass made sample decided all filled => exact departures_pass decided filled sample
  | conclude made sample decided all filled =>
      have moved : ((ledger.accept sample).move sample.word).current.map Sample.word =
          ((ledger.accept sample).move sample.word).moved := by
        simp [accept, move, all]
      rw [departures_close ((ledger.accept sample).move sample.word) decided moved]
      exact departures_pass decided filled sample

/-- The frames that have left, without what was known of their words. -/
def frames (ledger : Ledger) : List Frame := ledger.passages.map fun passage => ⟨passage.words⟩

theorem onset_eq (ledger : Ledger) : ledger.onset = Frame.onset ledger.frames := by
  simp [onset, Frame.onset, frames, Frame.length, Passage.words, Function.comp_def]

theorem length_passage (passage : Passage) :
    Frame.length ⟨passage.words⟩ = passage.samples.length := List.length_map _

/-- Without a frame in flight the words were accepted in the ticks of the frames that have left. -/
theorem intake_of_rested (nothing : ledger.current = []) :
    ledger.intake = Frame.intakes ledger.frames := by
  have same : Frame.intakes ledger.frames = Frame.agenda
      (fun passage : Passage => passage.samples.length)
      (fun onset passage => Frame.intake onset passage.words) 0 ledger.passages :=
    Frame.agenda_map (fun passage _ => length_passage passage) (fun _ _ _ => rfl) 0
  rw [same, intake, nothing]
  exact List.append_nil _

/-- Without a decided frame in flight the words left in the ticks of the frames that have left. -/
theorem departures_of_rested {route : Frame → Route} (undecided : ledger.decision = none)
    (routed : ∀ passage ∈ ledger.passages, passage.decision.route = route ⟨passage.words⟩) :
    ledger.departures = Frame.departures route ledger.frames := by
  have same : Frame.departures route ledger.frames = Frame.agenda
      (fun passage : Passage => passage.samples.length)
      (fun onset passage => Frame.departure onset passage.samples.length passage.decision.route
        passage.words) 0 ledger.passages :=
    Frame.agenda_map (fun passage _ => length_passage passage)
      (fun passage listed onset => by rw [length_passage, routed passage listed]) 0
  rw [same, departures, undecided]
  exact List.append_nil _

/-- Closing a frame ends the work on all frames with the work on it. -/
theorem duration_close (ledger : Ledger) (made : Decision) :
    Frame.duration (ledger.close made).frames =
      ledger.onset + Frame.cost ledger.current.length := by
  have closed : (ledger.close made).frames =
      ledger.frames ++ [⟨Passage.words ⟨ledger.current, made⟩⟩] := List.map_append
  rw [closed, Frame.duration_concat, ← onset_eq, length_passage]

/-- A stride behind which no frame is in flight ends the work on the frames in time. -/
theorem Stride.duration_eq (stride : ledger.Stride sample exit next)
    (undecided : next.decision = none) (nothing : next.current = []) :
    Frame.duration next.frames = ledger.clock + 1 := by
  cases stride with
  | capture sample => exact absurd nothing (by simp [accept])
  | decide made => cases undecided
  | replay made word decided => cases undecided.symm.trans decided
  | finish made word decided all within =>
      have whole : Frame.cost (ledger.move word).current.length =
          Frame.span ledger.current.length + 1 := Frame.cost_of_within within
      rw [duration_close, whole, clock_of_last decided all within]
      rfl
  | exchange made word sample => exact absurd nothing (by simp [accept])
  | pass made sample decided => cases undecided.symm.trans decided
  | conclude made sample decided all filled =>
      rw [duration_close, clock_of_filled decided all filled, Frame.cost]
      simp only [onset, accept, move, List.length_append, List.length_singleton]
      omega

end Ledger

end FrameRouter
