import FrameRouter.Frame.Document
import FrameRouter.Proofs.Frame.Packing
import FrameRouter.Proofs.Json.Members
import FrameRouter.Proofs.Json.Writing
import FrameRouter.Proofs.Text.Digits
import FrameRouter.Sink.Queue

/-!
# The representation of frames

Whichever way a frame is made, its words are sealed, unless it is empty.  A
frame is therefore made again by its own words, and read again from the document
that it is written to.
-/

namespace FrameRouter

open Json

namespace Word

def dataSlot : Slot Draft :=
  ⟨"data", UInt32, Draft.data, fun draft value => { draft with data := some value }, uint32,
    Tree.uint32?, understands_uint32⟩

def sideSlot : Slot Draft :=
  ⟨"side", UInt8, Draft.side, fun draft value => { draft with side := some value }, uint8,
    Tree.uint8?, understands_uint8⟩

def bytesSlot : Slot Draft :=
  ⟨"bytes", UInt8, Draft.bytes, fun draft value => { draft with bytes := some value }, uint8,
    Tree.uint8?, understands_uint8⟩

def lastSlot : Slot Draft :=
  ⟨"last", Bool, Draft.last, fun draft value => { draft with last := some value }, boolean,
    Tree.boolean?, understands_boolean⟩

def slots : List (Slot Draft) := [dataSlot, sideSlot, bytesSlot, lastSlot]

theorem independent_slots : Independent slots where
  keys := by decide
  get_set := by simp [slots, dataSlot, sideSlot, bytesSlot, lastSlot]
  get_set_of_ne := by simp [slots, dataSlot, sideSlot, bytesSlot, lastSlot]
  determined := by
    rintro ⟨data, side, bytes, last⟩ ⟨data', side', bytes', last'⟩ same
    simpa [slots, dataSlot, sideSlot, bytesSlot, lastSlot] using same

def meaning (tree : Tree) : Option Word := format.meaning slots tree

theorem understands_format : Understands format.read meaning := RecordFormat.understands rfl

/-- A word means itself as it is written. -/
theorem meaning_toValue (word : Word) : meaning word.toValue.tree = some word := by
  have draft : format.draft? slots word.toValue.tree =
      some ⟨some word.data, some word.side, some word.bytes, some word.last⟩ := by
    refine RecordFormat.absorbed_cons independent_slots
      (.fill dataSlot (by simp [slots]) rfl (Tree.uint32?_number word.data)) ?_
    refine RecordFormat.absorbed_cons independent_slots
      (.fill sideSlot (by simp [slots]) rfl (Tree.uint8?_number word.side)) ?_
    refine RecordFormat.absorbed_cons independent_slots
      (.fill bytesSlot (by simp [slots]) rfl (Tree.uint8?_number word.bytes)) ?_
    refine RecordFormat.absorbed_cons independent_slots
      (.fill lastSlot (by simp [slots]) rfl rfl) ?_
    rfl
  rw [meaning, RecordFormat.meaning, draft]
  rfl

end Word

/-- What a receiver hands out is sealed, whatever it held before. -/
theorem Reassembly.sealed_run (held words : List Word) :
    ∀ frame ∈ (run held words).frames, Frame.Sealed frame.words := by
  induction words generalizing held with
  | nil => simp [run]
  | cons word words ih =>
      rw [run]
      split
      · exact List.forall_mem_cons.mpr ⟨Frame.sealed_markEnd (by simp), ih []⟩
      · exact ih (word :: held)

namespace Frame

/-- The ways in which frames are made. -/
inductive Made : Frame → Prop where
  | empty : Made .empty
  | words (words : List Word) : Made (ofWords words)
  | packet (bytes : List UInt8) (side : UInt8) : Made (ofEthernet bytes side)
  | document {text : String} {frame : Frame} (read : ofDocument text = .ok frame) : Made frame
  | drained {queue : Queue} {frame : Frame} (out : frame ∈ queue.drain.1) : Made frame

/-- A frame that stands for itself: its own words and its own document make it again. -/
structure Canonical (frame : Frame) : Prop where
  inside : ∀ word ∈ frame.words.dropLast, word.last = false ∧ word.bytes = 4
  final : ∀ word ∈ frame.words.getLast?, word.last = true
  again : ofWords frame.words = frame
  wellFormed : frame.isWellFormed = true ↔ frame.isEmpty = false
  document : ofDocument frame.toValue.render = .ok frame

/-- What a document describes is made of the words in it. -/
theorem exists_words_of_ofDocument {text : String} {frame : Frame}
    (read : ofDocument text = .ok frame) : ∃ words, frame = ofWords words := by
  unfold ofDocument Json.document reader at read
  cases taken : sequence Word.format.read text.toList with
  | error failure =>
      rw [taken] at read
      cases read
  | ok result =>
      rw [taken] at read
      simp only [bind, Except.bind, pure, Except.pure] at read
      split at read
      · cases read
        exact ⟨_, rfl⟩
      · cases read

/-- The words of a frame are sealed, whichever way it was made. -/
theorem Made.sealed {frame : Frame} (made : Made frame) :
    frame.words = [] ∨ Sealed frame.words := by
  have ofWords_sealed (words : List Word) :
      (ofWords words).words = [] ∨ Sealed (ofWords words).words := by
    cases words with
    | nil => exact Or.inl rfl
    | cons word words => exact Or.inr (sealed_markEnd (by simp))
  cases made with
  | empty => exact Or.inl rfl
  | words words => exact ofWords_sealed words
  | packet bytes side => exact Or.inr (sealed_ofEthernet bytes side)
  | document read =>
      obtain ⟨words, rfl⟩ := exists_words_of_ofDocument read
      exact ofWords_sealed words
  | drained out => exact Or.inr (Reassembly.sealed_run _ _ frame out)

/-- A frame is read from what its words mean. -/
theorem understands_reader :
    Understands reader fun tree => (tree.sequence? Word.meaning).bind (some <| ofWords ·) := by
  refine Word.understands_format.sequence.andThen fun text => ?_
  rw [reader, Except.toOption_bind]
  rfl

/-- A frame that its own words make again is read from what it is written as. -/
theorem ofDocument_toValue (frame : Frame) (again : ofWords frame.words = frame) :
    ofDocument frame.toValue.render = .ok frame := by
  have words : (frame.toValue.tree.sequence? Word.meaning) = some frame.words := by
    have inverse := mapM_map_of_inverse Word.meaning_toValue frame.words
    rw [toValue, Value.tree, Value.trees_eq_map, List.map_map]
    exact inverse
  refine Except.toOption_eq_some_iff.mp ?_
  rw [ofDocument, understands_reader.document frame.toValue.represents_render, words]
  exact congrArg some again

/-- Words that are sealed, or none, make a canonical frame. -/
theorem Canonical.of_sealed {frame : Frame} (shape : frame.words = [] ∨ Sealed frame.words) :
    Canonical frame := by
  obtain ⟨words⟩ := frame
  rcases shape with rfl | isSealed
  · exact ⟨by simp, by simp, rfl, by decide, ofDocument_toValue ⟨[]⟩ rfl⟩
  · have again : ofWords words = ⟨words⟩ := isSealed.ofWords_eq
    have document := ofDocument_toValue ⟨words⟩ again
    have wellFormed := isSealed.isWellFormed
    obtain ⟨body, final, rfl, inside, ended⟩ := isSealed
    refine ⟨?_, ?_, again, ?_, document⟩
    · intro word membership
      rw [List.dropLast_concat] at membership
      exact (inside word membership).symm
    · intro word isFinal
      rw [List.getLast?_concat] at isFinal
      cases isFinal
      exact ended
    · simp [wellFormed, isEmpty]

/--
Every frame is canonical, whether it is empty, made of words, of a packet or of
a document, or handed out by a queue; making a frame of its words again changes
nothing.
-/
theorem made_canonical :
    (∀ frame, Made frame → Canonical frame) ∧
      ∀ words, ofWords (ofWords words).words = ofWords words := by
  constructor
  · intro frame made
    exact .of_sealed made.sealed
  · intro words
    exact (Canonical.of_sealed (Made.words words).sealed).again

/-- A document whose marks stand at the wrong word still describes a canonical frame. -/
theorem made_canonical_marked :
    ofDocument "[[1, 0, 2, true], [3, 7, 2, false]]" =
        .ok ⟨[⟨1, 0, 4, false⟩, ⟨3, 7, 2, true⟩]⟩ ∧
      Canonical ⟨[⟨1, 0, 4, false⟩, ⟨3, 7, 2, true⟩]⟩ := by
  have read : ofDocument "[[1, 0, 2, true], [3, 7, 2, false]]" =
      .ok ⟨[⟨1, 0, 4, false⟩, ⟨3, 7, 2, true⟩]⟩ := rfl
  exact ⟨read, made_canonical.1 _ (.document read)⟩

end Frame

end FrameRouter
