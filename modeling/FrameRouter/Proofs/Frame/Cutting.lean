import Mathlib.Data.List.Induction
import Mathlib.Data.List.SplitBy

/-!
# Cutting a stream

A stream is cut behind every item that ends a frame.  All pieces but the last
are then whole frames, and the last one is either whole or still open.  A
stream has only one such cutting.
-/

namespace FrameRouter

namespace Cutting

variable {α β : Type} {ends : α → Bool}

/-- Cut a stream behind every item that ends a frame. -/
def pieces (ends : α → Bool) (items : List α) : List (List α) :=
  items.splitBy fun item _ => !ends item

/-- No item ends a frame. -/
def Open (ends : α → Bool) (items : List α) : Prop :=
  ∀ item ∈ items, ends item = false

/-- The final item, and no other, ends a frame. -/
def Whole (ends : α → Bool) (items : List α) : Prop :=
  ∃ body final, items = body ++ [final] ∧ Open ends body ∧ ends final = true

@[simp]
theorem pieces_nil : pieces ends [] = [] := rfl

namespace Open

theorem nil : Open ends [] := by
  intro item membership
  cases membership

theorem append {items : List α} {item : α}
    (isOpen : Open ends items) (unended : ends item = false) :
    Open ends (items ++ [item]) := by
  intro other membership
  rcases List.mem_append.mp membership with before | here
  · exact isOpen other before
  · rw [List.mem_singleton.mp here]
    exact unended

theorem whole {items : List α} {item : α}
    (isOpen : Open ends items) (ended : ends item = true) :
    Whole ends (items ++ [item]) :=
  ⟨items, item, rfl, isOpen, ended⟩

theorem map {items : List α} {endsImage : β → Bool} {image : α → β}
    (same : ∀ item, endsImage (image item) = ends item) (isOpen : Open ends items) :
    Open endsImage (items.map image) := by
  intro item membership
  obtain ⟨source, sourceMem, rfl⟩ := List.mem_map.mp membership
  rw [same]
  exact isOpen source sourceMem

end Open

/-- Within an open stream followed by one item, no neighbours are separated. -/
theorem isChain_open_append {body : List α} (final : α) (isOpen : Open ends body) :
    (body ++ [final]).IsChain fun item _ => !ends item := by
  induction body with
  | nil => exact List.isChain_singleton final
  | cons first rest ih =>
      have restOpen : Open ends rest := fun item membership =>
        isOpen item (List.mem_cons_of_mem first membership)
      refine List.isChain_cons.mpr ⟨?_, ih restOpen⟩
      intro next _
      simp [isOpen first List.mem_cons_self]

namespace Whole

theorem ne_nil {items : List α} (whole : Whole ends items) : items ≠ [] := by
  obtain ⟨body, final, rfl, _⟩ := whole
  simp

/-- In front of its final item a whole frame is open. -/
theorem isOpen_of_append {front rest : List α} (whole : Whole ends (front ++ rest))
    (nonempty : rest ≠ []) : Open ends front := by
  obtain ⟨body, final, split, isOpen, _⟩ := whole
  obtain ⟨middle, last, rfl⟩ := (List.eq_nil_or_concat' rest).resolve_left nonempty
  rw [← List.append_assoc] at split
  obtain ⟨rfl, _⟩ := List.append_inj' split rfl
  exact fun item membership => isOpen item (List.mem_append_left middle membership)

theorem map {items : List α} {endsImage : β → Bool} {image : α → β}
    (same : ∀ item, endsImage (image item) = ends item) (whole : Whole ends items) :
    Whole endsImage (items.map image) := by
  obtain ⟨body, final, rfl, isOpen, ended⟩ := whole
  refine ⟨body.map image, image final, by simp, isOpen.map same, ?_⟩
  rw [same]
  exact ended

/-- An item of a whole frame ends it exactly when nothing follows. -/
theorem ends_iff {before rest : List α} {item : α}
    (whole : Whole ends (before ++ item :: rest)) :
    ends item = true ↔ rest = [] := by
  obtain ⟨body, final, split, isOpen, ended⟩ := whole
  rcases List.eq_nil_or_concat' rest with rfl | ⟨middle, last, rfl⟩
  · obtain ⟨rfl, same⟩ := List.append_inj' split rfl
    cases same
    simp [ended]
  · have shape : (before ++ item :: middle) ++ [last] = body ++ [final] := by
      simpa using split
    obtain ⟨rfl, _⟩ := List.append_inj' shape rfl
    have unended : ends item = false := isOpen item (by simp)
    simp [unended]

/-- An item of a whole frame ends it exactly in the last place. -/
theorem ends_getElem?_iff {items : List α} (whole : Whole ends items) {place : Nat} {item : α}
    (found : items[place]? = some item) : ends item = true ↔ place + 1 = items.length := by
  obtain ⟨within, rfl⟩ := List.getElem?_eq_some_iff.mp found
  have split : items = items.take place ++ items[place] :: items.drop (place + 1) := by
    rw [← List.drop_eq_getElem_cons within, List.take_append_drop]
  have ended := whole
  rw [split] at ended
  rw [ended.ends_iff, List.drop_eq_nil_iff]
  omega

theorem singleton_iff {item : α} : Whole ends [item] ↔ ends item = true := by
  constructor
  · intro whole
    have first : [item][0]? = some item := rfl
    exact (whole.ends_getElem?_iff first).mpr rfl
  · intro ended
    exact Open.nil.whole ended

/-- In front of a whole frame an item that does not end it makes another one. -/
theorem cons_iff {item next : α} {rest : List α} :
    Whole ends (item :: next :: rest) ↔ ends item = false ∧ Whole ends (next :: rest) := by
  constructor
  · rintro ⟨body, final, split, isOpen, ended⟩
    cases body with
    | nil => cases split
    | cons first body =>
        obtain ⟨rfl, further⟩ := List.cons.inj split
        obtain ⟨inside, others⟩ := List.forall_mem_cons.mp isOpen
        exact ⟨inside, body, final, further, others, ended⟩
  · rintro ⟨inside, body, final, split, isOpen, ended⟩
    refine ⟨item :: body, final, by rw [split]; rfl, ?_, ended⟩
    exact List.forall_mem_cons.mpr ⟨inside, isOpen⟩

/-- In front of an item of a whole frame nothing ends it. -/
theorem open_before {before rest : List α} {item : α}
    (whole : Whole ends (before ++ item :: rest)) : Open ends before := by
  intro earlier membership
  obtain ⟨first, second, rfl⟩ := List.append_of_mem membership
  rw [List.append_assoc, List.cons_append] at whole
  refine Bool.eq_false_iff.mpr fun ended => ?_
  exact absurd (whole.ends_iff.mp ended) (by simp)

/-- Nothing follows a whole frame within a frame. -/
theorem eq_nil_of_append {frame more : List α} (whole : Whole ends frame)
    (shape : Whole ends (frame ++ more) ∨ Open ends (frame ++ more)) : more = [] := by
  obtain ⟨body, final, rfl, _, ended⟩ := whole
  rw [List.append_assoc, List.singleton_append] at shape
  rcases shape with longer | isOpen
  · exact longer.ends_iff.mp ended
  · exact absurd (ended.symm.trans (isOpen final (by simp))) (by decide)

/-- A whole frame in front of a stream is its first piece. -/
theorem pieces_append {frame : List α} (whole : Whole ends frame) (rest : List α) :
    pieces ends (frame ++ rest) = frame :: pieces ends rest := by
  obtain ⟨body, final, rfl, isOpen, ended⟩ := whole
  unfold pieces
  rw [List.splitBy_append, List.splitBy_of_isChain _ (isChain_open_append final isOpen)]
  · rfl
  · simp
  · intro item itemMem next _
    rw [List.getLast?_append_cons] at itemMem
    simp only [List.getLast?_singleton, Option.mem_some_iff] at itemMem
    subst itemMem
    simp [ended]

end Whole

/-- An open beginning of a stream ends within the whole frame in front of it. -/
theorem Open.length_lt {front rest frame more : List α} (isOpen : Open ends front)
    (whole : Whole ends frame) (stream : frame ++ more = front ++ rest) :
    front.length < frame.length := by
  obtain ⟨body, final, rfl, _, ended⟩ := whole
  rw [List.length_append, List.length_singleton]
  refine Nat.lt_succ_of_le (Nat.le_of_not_lt fun longer => ?_)
  -- Otherwise the final item would stand in the open part.
  have inside : final ∈ front := by
    have found : (front ++ rest)[body.length]? = some final := by
      rw [← stream, List.append_assoc]
      simp
    rw [List.getElem?_append_left longer] at found
    exact List.mem_of_getElem? found
  exact absurd (ended.symm.trans (isOpen final inside)) (by decide)

theorem Open.pieces_eq {items : List α} (isOpen : Open ends items) (nonempty : items ≠ []) :
    pieces ends items = [items] := by
  obtain ⟨body, final, rfl⟩ := (List.eq_nil_or_concat' items).resolve_left nonempty
  have bodyOpen : Open ends body := fun item membership =>
    isOpen item (List.mem_append_left _ membership)
  exact List.splitBy_of_isChain nonempty (isChain_open_append final bodyOpen)

/-- Whole frames in front of a stream are its first pieces. -/
theorem pieces_flatten_append {frames : List (List α)}
    (whole : ∀ frame ∈ frames, Whole ends frame) (rest : List α) :
    pieces ends (frames.flatten ++ rest) = frames ++ pieces ends rest := by
  induction frames with
  | nil => rfl
  | cons frame frames ih =>
      have tailWhole : ∀ other ∈ frames, Whole ends other := fun other membership =>
        whole other (List.mem_cons_of_mem frame membership)
      rw [List.flatten_cons, List.append_assoc,
        (whole frame List.mem_cons_self).pieces_append, ih tailWhole, List.cons_append]

theorem pieces_flatten {frames : List (List α)}
    (whole : ∀ frame ∈ frames, Whole ends frame) : pieces ends frames.flatten = frames := by
  simpa using pieces_flatten_append whole []

/-- Whole frames and one more frame, whole or still open, are the pieces of their stream. -/
theorem pieces_flatten_append_last {frames : List (List α)} {last : List α}
    (whole : ∀ frame ∈ frames, Whole ends frame)
    (lastFrame : Whole ends last ∨ Open ends last) (nonempty : last ≠ []) :
    pieces ends (frames.flatten ++ last) = frames ++ [last] := by
  rw [pieces_flatten_append whole]
  rcases lastFrame with lastWhole | lastOpen
  · have split := lastWhole.pieces_append []
    rw [List.append_nil, pieces_nil] at split
    rw [split]
  · rw [lastOpen.pieces_eq nonempty]

/-- A stream of whole frames is empty, or its final item ends a frame. -/
theorem ends_of_mem_getLast? {frames : List (List α)}
    (whole : ∀ frame ∈ frames, Whole ends frame) :
    ∀ final ∈ frames.flatten.getLast?, ends final = true := by
  intro final isFinal
  rcases List.eq_nil_or_concat' frames with rfl | ⟨earlier, last, rfl⟩
  · cases isFinal
  · obtain ⟨body, ending, rfl, _, ended⟩ := whole last (by simp)
    rw [List.flatten_append, List.flatten_singleton, ← List.append_assoc,
      List.getLast?_concat] at isFinal
    cases isFinal
    exact ended

/-- Every stream is a series of whole frames with an open one behind them. -/
theorem exists_frames (ends : α → Bool) (items : List α) :
    ∃ (frames : List (List α)) (rest : List α), items = frames.flatten ++ rest ∧
      (∀ frame ∈ frames, Whole ends frame) ∧ Open ends rest := by
  induction items using List.reverseRecOn with
  | nil => exact ⟨[], [], rfl, by simp, Open.nil⟩
  | append_singleton items item ih =>
      obtain ⟨frames, rest, rfl, whole, isOpen⟩ := ih
      cases ended : ends item with
      | false => exact ⟨frames, rest ++ [item], by simp, whole, isOpen.append ended⟩
      | true =>
          refine ⟨frames ++ [rest ++ [item]], [], by simp, ?_, Open.nil⟩
          intro frame membership
          rcases List.mem_append.mp membership with earlier | this
          · exact whole frame earlier
          · rw [List.mem_singleton.mp this]
            exact isOpen.whole ended

/-- The whole frames of a stream, in their order. -/
def complete (ends : α → Bool) (items : List α) : List (List α) :=
  (pieces ends items).filter fun piece => piece.getLast?.any ends

/-- The items behind the last whole frame of a stream. -/
def remainder (ends : α → Bool) (items : List α) : List α :=
  ((pieces ends items).filter fun piece => !piece.getLast?.any ends).flatten

theorem Whole.getLast?_any {frame : List α} (whole : Whole ends frame) :
    frame.getLast?.any ends = true := by
  obtain ⟨body, final, rfl, _, ended⟩ := whole
  simp [ended]

theorem Open.getLast?_any {rest : List α} (isOpen : Open ends rest) :
    rest.getLast?.any ends = false := by
  rcases List.eq_nil_or_concat' rest with rfl | ⟨body, final, rfl⟩
  · rfl
  · simp [isOpen final (by simp)]

/-- There is only one way to split a stream into whole frames and an open one. -/
theorem complete_remainder {frames : List (List α)} {rest : List α}
    (whole : ∀ frame ∈ frames, Whole ends frame) (isOpen : Open ends rest) :
    complete ends (frames.flatten ++ rest) = frames ∧
      remainder ends (frames.flatten ++ rest) = rest := by
  have kept : frames.filter (fun piece => piece.getLast?.any ends) = frames :=
    List.filter_eq_self.mpr fun frame membership => (whole frame membership).getLast?_any
  have dropped : frames.filter (fun piece => !piece.getLast?.any ends) = [] :=
    List.filter_eq_nil_iff.mpr fun frame membership => by
      simp [(whole frame membership).getLast?_any]
  unfold complete remainder
  rw [pieces_flatten_append whole, List.filter_append, List.filter_append, kept, dropped]
  rcases eq_or_ne rest [] with rfl | nonempty
  · simp
  · simp [isOpen.pieces_eq nonempty, isOpen.getLast?_any]

/-- A stream is its whole frames with the open one behind them. -/
theorem split_stream (ends : α → Bool) (items : List α) :
    items = (complete ends items).flatten ++ remainder ends items ∧
      (∀ frame ∈ complete ends items, Whole ends frame) ∧ Open ends (remainder ends items) := by
  obtain ⟨frames, rest, rfl, whole, isOpen⟩ := exists_frames ends items
  obtain ⟨complete, remainder⟩ := complete_remainder whole isOpen
  rw [complete, remainder]
  exact ⟨rfl, whole, isOpen⟩

/-- An item that ends no frame stays in the open one. -/
theorem complete_append_open (items : List α) {item : α} (unended : ends item = false) :
    complete ends (items ++ [item]) = complete ends items ∧
      remainder ends (items ++ [item]) = remainder ends items ++ [item] := by
  obtain ⟨split, whole, isOpen⟩ := split_stream ends items
  have longer : items ++ [item] =
      (complete ends items).flatten ++ (remainder ends items ++ [item]) := by
    rw [← List.append_assoc, ← split]
  rw [longer]
  exact complete_remainder whole (isOpen.append unended)

/-- An item that ends a frame completes the open one. -/
theorem complete_append_whole (items : List α) {item : α} (ended : ends item = true) :
    complete ends (items ++ [item]) = complete ends items ++ [remainder ends items ++ [item]] ∧
      remainder ends (items ++ [item]) = [] := by
  obtain ⟨split, whole, isOpen⟩ := split_stream ends items
  have longer : items ++ [item] =
      (complete ends items ++ [remainder ends items ++ [item]]).flatten ++ [] := by
    rw [List.flatten_append, List.flatten_singleton, List.append_nil, ← List.append_assoc,
      ← split]
  rw [longer]
  refine complete_remainder ?_ Open.nil
  intro frame membership
  rcases List.mem_append.mp membership with earlier | this
  · exact whole frame earlier
  · rw [List.mem_singleton.mp this]
    exact isOpen.whole ended

/-- More of a stream only adds whole frames behind those there are. -/
theorem complete_prefix (ends : α → Bool) (items more : List α) :
    complete ends items <+: complete ends (items ++ more) := by
  induction more using List.reverseRecOn with
  | nil => simp
  | append_singleton more item ih =>
      rw [← List.append_assoc]
      cases ended : ends item with
      | false =>
          rw [(complete_append_open _ ended).1]
          exact ih
      | true =>
          rw [(complete_append_whole _ ended).1]
          exact ih.trans (List.prefix_append _ _)

/-- The first whole frames of a stream are the frames with which it begins. -/
theorem prefix_complete {frames : List (List α)} (isWhole : ∀ frame ∈ frames, Whole ends frame)
    (rest : List α) : frames <+: complete ends (frames.flatten ++ rest) := by
  have first := complete_prefix ends frames.flatten rest
  have cut := (complete_remainder isWhole Open.nil).1
  rw [List.append_nil] at cut
  rwa [cut] at first

/-- The pieces of an image are the images of the pieces. -/
theorem pieces_map {endsImage : β → Bool} (image : α → β)
    (same : ∀ item, endsImage (image item) = ends item) (items : List α) :
    pieces endsImage (items.map image) = (pieces ends items).map (List.map image) := by
  obtain ⟨frames, rest, rfl, whole, isOpen⟩ := exists_frames ends items
  have wholeImage : ∀ frame ∈ frames.map (List.map image), Whole endsImage frame := by
    intro frame membership
    obtain ⟨source, listed, rfl⟩ := List.mem_map.mp membership
    exact (whole source listed).map same
  rw [List.map_append, List.map_flatten, pieces_flatten_append wholeImage,
    pieces_flatten_append whole, List.map_append]
  congr 1
  rcases eq_or_ne rest [] with rfl | nonempty
  · rfl
  · rw [isOpen.pieces_eq nonempty, (isOpen.map same).pieces_eq (by simpa using nonempty)]
    rfl

end Cutting

end FrameRouter
