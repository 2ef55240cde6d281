import FrameRouter.Proofs.Frame.Packing
import FrameRouter.Proofs.Json.Members
import FrameRouter.Trace

/-!
# Loading a trace

A trace gives one frame for each of its entries, or none at all.  A document
that is no list of entries is reported as such, whatever its entries hold;
otherwise the first entry that holds no packet is reported with its number.
-/

namespace FrameRouter

open Json

namespace TraceEntry

/-- The frame is the packet that the digits of the entry spell, packed with its annotation. -/
structure Gives (entry : TraceEntry) (frame : Frame) : Prop where
  packet : Hex.decode entry.digits = .ok frame.toEthernet
  nonempty : frame.toEthernet ≠ []
  packed : frame = Frame.ofEthernet frame.toEthernet entry.side
  inhabited : frame.isEmpty = false
  wellFormed : frame.isWellFormed = true

/-- The digits spell no packet; the message tells why. -/
inductive Refused (entry : TraceEntry) : String → Prop where
  | digits {fault : Hex.Fault} (faulty : Hex.decode entry.digits = .error fault) :
      Refused entry fault.message
  | empty (nothing : Hex.decode entry.digits = .ok []) : Refused entry "empty frame"

section Frames

variable {entry : TraceEntry} {frame : Frame} {bytes : List UInt8}

theorem gives_ofEthernet (nonempty : bytes ≠ []) (decoded : Hex.decode entry.digits = .ok bytes) :
    entry.Gives (Frame.ofEthernet bytes entry.side) := by
  have isSealed := Frame.sealed_ofEthernet bytes entry.side
  have packet : (Frame.ofEthernet bytes entry.side).toEthernet = bytes := by
    rw [Frame.toEthernet, Frame.payload_ofEthernet]
    rfl
  refine ⟨?_, ?_, ?_, ?_, isSealed.isWellFormed⟩
  · rw [packet, decoded]
  · rwa [packet]
  · rw [packet]
  · obtain ⟨body, final, words, _⟩ := isSealed
    rw [Frame.isEmpty, words]
    simp

theorem toFrame_of_fault {fault : Hex.Fault} (faulty : Hex.decode entry.digits = .error fault) :
    entry.toFrame = .error (.digits fault) := by
  rw [toFrame, faulty]
  rfl

theorem toFrame_of_nothing (nothing : Hex.decode entry.digits = .ok []) :
    entry.toFrame = .error .empty := by
  rw [toFrame, nothing]
  rfl

theorem toFrame_of_bytes (nonempty : bytes ≠ []) (decoded : Hex.decode entry.digits = .ok bytes) :
    entry.toFrame = .ok (Frame.ofEthernet bytes entry.side) := by
  have present : ¬bytes.isEmpty = true := by simpa using nonempty
  rw [toFrame, decoded]
  exact if_neg present

/-- An entry is refused or gives a frame. -/
theorem toFrame_cases (entry : TraceEntry) :
    (∃ frame, entry.toFrame = .ok frame ∧ entry.Gives frame) ∨
      ∃ refusal, entry.toFrame = .error refusal ∧ entry.Refused refusal.message := by
  cases decoded : Hex.decode entry.digits with
  | error fault => exact Or.inr ⟨_, toFrame_of_fault decoded, .digits decoded⟩
  | ok bytes =>
      by_cases nothing : bytes = []
      · subst nothing
        exact Or.inr ⟨_, toFrame_of_nothing decoded, .empty decoded⟩
      · exact Or.inl ⟨_, toFrame_of_bytes nothing decoded, gives_ofEthernet nothing decoded⟩

theorem Gives.toFrame (gives : entry.Gives frame) : entry.toFrame = .ok frame := by
  rw [toFrame_of_bytes gives.nonempty gives.packet, ← gives.packed]

theorem Gives.sealed (gives : entry.Gives frame) : Frame.Sealed frame.words := by
  have isSealed := Frame.sealed_ofEthernet frame.toEthernet entry.side
  rwa [← gives.packed] at isSealed

theorem Refused.toFrame {message : String} (refused : entry.Refused message) :
    ∃ refusal, entry.toFrame = .error refusal ∧ refusal.message = message := by
  cases refused with
  | digits faulty => exact ⟨_, toFrame_of_fault faulty, rfl⟩
  | empty nothing => exact ⟨_, toFrame_of_nothing nothing, rfl⟩

end Frames

section Documents

/--
The tree describes the entry: an object with the digits and perhaps an
annotation, whatever else is in it, or a list that begins with them.  Without
an annotation it is zero.
-/
inductive Described (entry : TraceEntry) : Tree → Prop where
  | object {members : List (Option String × Tree)} (named : none ∉ members.map Prod.fst)
      (digits : (some "frame", .text (some entry.digits)) ∈ members)
      (side : (some "side", .number (.natural entry.side.toNat)) ∈ members ∨
        some "side" ∉ members.map Prod.fst ∧ entry.side = 0)
      (once : ∀ key ∈ ["frame", "side"], (members.map Prod.fst).count (some key) ≤ 1) :
      Described entry (.object members)
  | digits (plain : entry.side = 0) : Described entry (.list [.text (some entry.digits)])
  | list : Described entry
      (.list [.text (some entry.digits), .number (.natural entry.side.toNat)])

def digitsSlot : Slot Draft :=
  ⟨"frame", String, Draft.digits, fun draft value => { draft with digits := some value },
    text "a string", Tree.text?, understands_text "a string"⟩

def sideSlot : Slot Draft :=
  ⟨"side", UInt8, Draft.side, fun draft value => { draft with side := some value }, uint8,
    Tree.uint8?, understands_uint8⟩

def slots : List (Slot Draft) := [digitsSlot, sideSlot]

theorem independent_slots : Independent slots where
  keys := by decide
  get_set := by simp [slots, digitsSlot, sideSlot]
  get_set_of_ne := by simp [slots, digitsSlot, sideSlot]
  determined := by
    rintro ⟨digits, side⟩ ⟨digits', side'⟩ same
    simpa [slots, digitsSlot, sideSlot] using same

theorem forall_mem_slots {motive : Slot Draft → Prop} :
    (∀ slot ∈ slots, motive slot) ↔ motive digitsSlot ∧ motive sideSlot := by
  simp [slots]

def meaning (tree : Tree) : Option TraceEntry := format.meaning slots tree

theorem understands_format : Understands format.read meaning := RecordFormat.understands rfl

variable {entry : TraceEntry} {tree : Tree}

/-- An entry is complete with its digits; the annotation has a default. -/
theorem complete_eq_ok_iff {draft : Draft} : format.complete draft = .ok entry ↔
    draft = ⟨some entry.digits, some entry.side⟩ ∨
      entry.side = 0 ∧ draft = ⟨some entry.digits, none⟩ := by
  obtain ⟨digits, side⟩ := draft
  cases digits with
  | none => exact ⟨nofun, by simp⟩
  | some digits =>
      cases side with
      | none =>
          constructor
          · intro completed
            cases completed
            exact Or.inr ⟨rfl, rfl⟩
          · rintro (same | ⟨plain, same⟩)
            · cases same
            · cases same
              obtain ⟨_, side⟩ := entry
              change side = 0 at plain
              rw [plain]
              rfl
      | some side =>
          constructor
          · intro completed
            cases completed
            exact Or.inl rfl
          · rintro (same | ⟨_, same⟩)
            · cases same
              rfl
            · cases same

theorem meaning_eq_some_iff_draft : meaning tree = some entry ↔
    format.draft? slots tree = some ⟨some entry.digits, some entry.side⟩ ∨
      entry.side = 0 ∧ format.draft? slots tree = some ⟨some entry.digits, none⟩ := by
  rw [meaning, RecordFormat.meaning, Option.bind_eq_some_iff]
  constructor
  · rintro ⟨draft, found, completed⟩
    rcases complete_eq_ok_iff.mp (Except.toOption_eq_some_iff.mp completed) with
      rfl | ⟨plain, rfl⟩
    · exact Or.inl found
    · exact Or.inr ⟨plain, found⟩
  · rintro (found | ⟨plain, found⟩)
    · exact ⟨_, found, Except.toOption_eq_some_iff.mpr (complete_eq_ok_iff.mpr (Or.inl rfl))⟩
    · exact ⟨_, found,
        Except.toOption_eq_some_iff.mpr (complete_eq_ok_iff.mpr (Or.inr ⟨plain, rfl⟩))⟩

/-- Which objects leave a draft with the digits. -/
theorem absorbed_iff {members : List (Option String × Tree)} {digits : String}
    {side : Option UInt8} :
    members.foldlM (RecordFormat.absorb false slots) format.blank = some ⟨some digits, side⟩ ↔
      none ∉ members.map Prod.fst ∧ (some "frame", .text (some digits)) ∈ members ∧
        sideSlot.Filled ⟨some digits, side⟩ members ∧
        ∀ key ∈ ["frame", "side"], (members.map Prod.fst).count (some key) ≤ 1 := by
  rw [RecordFormat.foldlM_absorb_eq_some_iff independent_slots
    (forall_mem_slots.mpr ⟨rfl, rfl⟩), forall_mem_slots]
  constructor
  · rintro ⟨named, _, ⟨onceDigits, filledDigits⟩, onceSide, filledSide⟩
    obtain ⟨tree, listed, means⟩ := (Slot.filled_iff_of_set rfl).mp filledDigits
    cases Tree.text?_eq_some_iff.mp means
    exact ⟨named, listed, filledSide,
      List.forall_mem_cons.mpr ⟨onceDigits, List.forall_mem_cons.mpr ⟨onceSide, nofun⟩⟩⟩
  · rintro ⟨named, listed, filledSide, once⟩
    obtain ⟨onceDigits, others⟩ := List.forall_mem_cons.mp once
    exact ⟨named, nofun, ⟨onceDigits, .given listed rfl rfl⟩, others _ List.mem_cons_self,
      filledSide⟩

/-- An entry is read from the objects that describe it. -/
theorem meaning_object_iff {members : List (Option String × Tree)} :
    meaning (.object members) = some entry ↔ entry.Described (.object members) := by
  refine meaning_eq_some_iff_draft.trans ?_
  rw [RecordFormat.draft?]
  constructor
  · rintro (found | ⟨plain, found⟩)
    · obtain ⟨named, digits, filled, once⟩ := absorbed_iff.mp found
      obtain ⟨tree, listed, means⟩ := (Slot.filled_iff_of_set rfl).mp filled
      cases Tree.uint8?_eq_some_iff.mp means
      exact .object named digits (Or.inl listed) once
    · obtain ⟨named, digits, filled, once⟩ := absorbed_iff.mp found
      cases filled with
      | given _ _ set => cases set
      | left absent _ => exact .object named digits (Or.inr ⟨absent, plain⟩) once
  · rintro ⟨named, digits, listed | ⟨absent, plain⟩, once⟩
    · exact Or.inl (absorbed_iff.mpr
        ⟨named, digits, .given listed (Tree.uint8?_number _) rfl, once⟩)
    · exact Or.inr ⟨plain, absorbed_iff.mpr ⟨named, digits, .left absent rfl, once⟩⟩

/-- Which lists leave a draft with the digits. -/
theorem arranged_iff {trees : List Tree} {digits : String} {side : Option UInt8} :
    RecordFormat.arrange slots format.blank trees = some ⟨some digits, side⟩ ↔
      (side = none ∧ trees = [.text (some digits)]) ∨
        ∃ value, side = some value ∧
          trees = [.text (some digits), .number (.natural value.toNat)] := by
  constructor
  · intro arranged
    rcases trees with _ | ⟨first, trees⟩
    · cases arranged
    · obtain ⟨content, means, further⟩ := RecordFormat.arrange_cons_eq_some_iff.mp arranged
      cases Tree.text?_eq_some_iff.mp means
      rcases trees with _ | ⟨second, trees⟩
      · cases further
        exact Or.inl ⟨rfl, rfl⟩
      · obtain ⟨value, means, last⟩ := RecordFormat.arrange_cons_eq_some_iff.mp further
        cases Tree.uint8?_eq_some_iff.mp means
        rcases trees with _ | ⟨third, trees⟩
        · cases last
          exact Or.inr ⟨value, rfl, rfl⟩
        · cases last
  · rintro (⟨rfl, rfl⟩ | ⟨value, rfl, rfl⟩)
    · rfl
    · exact RecordFormat.arrange_cons_eq_some_iff.mpr ⟨digits, rfl,
        RecordFormat.arrange_cons_eq_some_iff.mpr ⟨value, Tree.uint8?_number value, rfl⟩⟩

/-- An entry is read from the lists that describe it. -/
theorem meaning_list_iff {trees : List Tree} :
    meaning (.list trees) = some entry ↔ entry.Described (.list trees) := by
  refine meaning_eq_some_iff_draft.trans ?_
  rw [RecordFormat.draft?, arranged_iff, arranged_iff]
  constructor
  · rintro ((⟨none, _⟩ | ⟨value, same, rfl⟩) | ⟨plain, ⟨_, rfl⟩ | ⟨value, same, _⟩⟩)
    · cases none
    · cases same
      exact .list
    · exact .digits plain
    · cases same
  · rintro (_ | plain | _)
    · exact Or.inr ⟨plain, Or.inl ⟨rfl, rfl⟩⟩
    · exact Or.inl (Or.inr ⟨_, rfl, rfl⟩)

/-- An entry is read from what describes it, and from nothing else. -/
theorem meaning_eq_some_iff : meaning tree = some entry ↔ entry.Described tree := by
  cases tree with
  | object members => exact meaning_object_iff
  | list trees => exact meaning_list_iff
  | _ =>
      constructor <;> intro impossible <;> cases impossible

end Documents

end TraceEntry

namespace Trace

open TraceEntry

/-- The first entry that gives no frame has the number. -/
structure FirstRefused (entries : List TraceEntry) (number : Nat) (message : String) : Prop where
  refused : ∃ entry, entries[number]? = some entry ∧ entry.Refused message
  earlier : ∀ place < number, ∀ entry, entries[place]? = some entry → ∃ frame, entry.Gives frame

section Entries

variable {entry : TraceEntry} {rest entries : List TraceEntry} {frame : Frame}
  {frames : List Frame} {number : Nat} {message : String}

theorem FirstRefused.here (refused : entry.Refused message) :
    FirstRefused (entry :: rest) 0 message :=
  ⟨⟨entry, rfl, refused⟩, nofun⟩

theorem FirstRefused.behind (gives : entry.Gives frame) (first : FirstRefused rest number message) :
    FirstRefused (entry :: rest) (number + 1) message := by
  obtain ⟨refused, earlier⟩ := first
  refine ⟨refused, fun place within other found => ?_⟩
  cases place with
  | zero =>
      cases found
      exact ⟨frame, gives⟩
  | succ place => exact earlier place (Nat.lt_of_succ_lt_succ within) other found

/-- The first entry is refused itself, or the first refused one is behind it. -/
theorem FirstRefused.cases_cons (first : FirstRefused (entry :: rest) number message) :
    (number = 0 ∧ entry.Refused message) ∨
      ∃ behind frame, number = behind + 1 ∧ entry.Gives frame ∧
        FirstRefused rest behind message := by
  obtain ⟨⟨other, found, refused⟩, earlier⟩ := first
  cases number with
  | zero =>
      cases found
      exact Or.inl ⟨rfl, refused⟩
  | succ behind =>
      obtain ⟨frame, gives⟩ := earlier 0 (Nat.succ_pos behind) entry rfl
      refine Or.inr ⟨behind, frame, rfl, gives, ⟨other, found, refused⟩, ?_⟩
      exact fun place within => earlier (place + 1) (Nat.succ_lt_succ within)

theorem framesFrom_of_gives (gives : entry.Gives frame) (start : Nat) :
    framesFrom start (entry :: rest) =
      framesFrom (start + 1) rest >>= fun frames => pure (frame :: frames) := by
  rw [framesFrom, gives.toFrame]

theorem framesFrom_of_refused {refusal : Refusal} (refused : entry.toFrame = .error refusal)
    (start : Nat) : framesFrom start (entry :: rest) =
      .error (.invalidTrace ("frame " ++ Digits.decimal start ++ ": " ++ refusal.message)) := by
  rw [framesFrom, refused]

/-- Entries that all give frames give the list of them. -/
theorem framesFrom_of_forall₂ (all : List.Forall₂ Gives entries frames) (start : Nat) :
    framesFrom start entries = .ok frames := by
  induction all generalizing start with
  | nil => rfl
  | cons gives _ ih =>
      rw [framesFrom_of_gives gives, ih]
      rfl

/-- The first refused entry is reported with its number. -/
theorem framesFrom_of_firstRefused (first : FirstRefused entries number message) (start : Nat) :
    framesFrom start entries =
      .error (.invalidTrace ("frame " ++ Digits.decimal (start + number) ++ ": " ++ message)) := by
  induction entries generalizing start number with
  | nil =>
      obtain ⟨_, found, _⟩ := first.refused
      cases found
  | cons entry rest ih =>
      rcases first.cases_cons with ⟨rfl, refused⟩ | ⟨behind, frame, rfl, gives, further⟩
      · obtain ⟨refusal, unmade, rfl⟩ := refused.toFrame
        rw [framesFrom_of_refused unmade, Nat.add_zero]
      · rw [framesFrom_of_gives gives, ih further, Nat.add_right_comm, Nat.add_assoc]
        rfl

/-- Either all entries give frames, or one is the first that does not. -/
theorem all_given_or_refused (entries : List TraceEntry) :
    (∃ frames, List.Forall₂ Gives entries frames) ∨
      ∃ number message, FirstRefused entries number message := by
  induction entries with
  | nil => exact Or.inl ⟨[], .nil⟩
  | cons entry rest ih =>
      rcases entry.toFrame_cases with ⟨frame, _, gives⟩ | ⟨refusal, _, refused⟩
      · rcases ih with ⟨frames, all⟩ | ⟨number, message, first⟩
        · exact Or.inl ⟨frame :: frames, .cons gives all⟩
        · exact Or.inr ⟨number + 1, message, first.behind gives⟩
      · exact Or.inr ⟨0, _, .here refused⟩

theorem frames_eq_ok_iff :
    Trace.frames entries = .ok frames ↔ List.Forall₂ Gives entries frames := by
  refine ⟨fun made => ?_, fun all => framesFrom_of_forall₂ all 0⟩
  rcases all_given_or_refused entries with ⟨others, all⟩ | ⟨number, message, first⟩
  · have same := (framesFrom_of_forall₂ all 0).symm.trans made
    cases same
    exact all
  · have same := (framesFrom_of_firstRefused first 0).symm.trans made
    cases same

theorem frames_eq_error_iff {fault : Fault} :
    Trace.frames entries = .error fault ↔ ∃ number message, FirstRefused entries number message ∧
      fault = .invalidTrace ("frame " ++ Digits.decimal number ++ ": " ++ message) := by
  constructor
  · intro failed
    rcases all_given_or_refused entries with ⟨others, all⟩ | ⟨number, message, first⟩
    · have same := (framesFrom_of_forall₂ all 0).symm.trans failed
      cases same
    · have same := (framesFrom_of_firstRefused first 0).symm.trans failed
      rw [Nat.zero_add] at same
      cases same
      exact ⟨number, message, first, rfl⟩
  · rintro ⟨number, message, first, rfl⟩
    have reported := framesFrom_of_firstRefused first 0
    rwa [Nat.zero_add] at reported

end Entries

/-- Entries are read from a list of what describes them. -/
theorem ofDocument_eq_ok_iff {text : String} {tree : Tree} (represents : Represents text tree)
    {entries : List TraceEntry} : ofDocument text = .ok entries ↔
      ∃ trees, tree = .list trees ∧ List.Forall₂ Described entries trees := by
  have means : (ofDocument text).toOption = tree.sequence? meaning :=
    understands_format.sequence.document represents
  rw [← Except.toOption_eq_some_iff, means, Tree.sequence?_eq_some_iff]
  simp only [meaning_eq_some_iff]

theorem load_of_error {text : String} {failure : Failure}
    (failed : ofDocument text = .error failure) :
    load (.ok text) = .error (.document failure) := by
  have steps : load (.ok text) = (ofDocument text).mapError Fault.document >>= Trace.frames := rfl
  rw [steps, failed]
  rfl

theorem load_of_entries {text : String} {entries : List TraceEntry}
    (read : ofDocument text = .ok entries) : load (.ok text) = Trace.frames entries := by
  have steps : load (.ok text) = (ofDocument text).mapError Fault.document >>= Trace.frames := rfl
  rw [steps, read]
  rfl

/-- The frames of a trace end with their last words. -/
theorem sealed_of_load {contents : Except FileFailure String} {frames : List Frame}
    (loaded : load contents = .ok frames) : ∀ frame ∈ frames, Frame.Sealed frame.words := by
  cases contents with
  | error failure => cases loaded
  | ok text =>
      cases read : ofDocument text with
      | error failure =>
          rw [load_of_error read] at loaded
          cases loaded
      | ok entries =>
          have all := frames_eq_ok_iff.mp ((load_of_entries read).symm.trans loaded)
          clear loaded read
          induction all with
          | nil =>
              intro frame membership
              cases membership
          | cons gives _ ih => exact List.forall_mem_cons.mpr ⟨gives.sealed, ih⟩

/--
A document that cannot be read is reported whatever its entries hold.  From
one that can, a trace is loaded with one frame for each entry, or the first
entry that gives none is reported with its number; its entries are what the
elements of the list describe.
-/
theorem load_exact (text : String) :
    (∀ failure, ofDocument text = .error failure →
      load (.ok text) = .error (.document failure)) ∧
      (∀ entries, ofDocument text = .ok entries →
        (∀ frames, load (.ok text) = .ok frames ↔ List.Forall₂ Gives entries frames) ∧
          ∀ fault, load (.ok text) = .error fault ↔
            ∃ number message, FirstRefused entries number message ∧
              fault = .invalidTrace
                ("frame " ++ Digits.decimal number ++ ": " ++ message)) ∧
      ∀ tree, Represents text tree → ∀ entries, ofDocument text = .ok entries ↔
        ∃ trees, tree = .list trees ∧ List.Forall₂ Described entries trees := by
  refine ⟨fun failure => load_of_error, ?_, fun tree represents entries =>
    ofDocument_eq_ok_iff represents⟩
  intro entries read
  rw [load_of_entries read]
  exact ⟨fun frames => frames_eq_ok_iff, fun fault => frames_eq_error_iff⟩

/-- The second entry has separators only, and the third one half a byte. -/
theorem load_exact_separators :
    load (.ok "[\x7b\"frame\": \"00\"\x7d, [\" : \", 3], [\"0\"]]") =
      .error (.invalidTrace "frame 1: empty frame") := by
  have read : ofDocument "[\x7b\"frame\": \"00\"\x7d, [\" : \", 3], [\"0\"]]" =
      .ok [⟨"00", 0⟩, ⟨" : ", 3⟩, ⟨"0", 0⟩] := rfl
  have first : FirstRefused [⟨"00", 0⟩, ⟨" : ", 3⟩, ⟨"0", 0⟩] 1 "empty frame" := by
    have separators : Refused ⟨" : ", 3⟩ "empty frame" := .empty rfl
    exact (FirstRefused.here separators).behind (gives_ofEthernet (List.cons_ne_nil 0 []) rfl)
  exact (((load_exact _).2.1 _ read).2 _).mpr ⟨1, _, first, rfl⟩

end Trace

end FrameRouter
