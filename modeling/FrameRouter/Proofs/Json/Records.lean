import FrameRouter.Json.Record
import FrameRouter.Proofs.Json.Lists
import FrameRouter.Proofs.Json.Skipping

/-!
# Records member by member

A record is understood if its fields are.  In an object each member fills the
slot of its key, which no member filled before; in a list the slots are filled
in declared order.  The filled draft is what the record is completed from.
-/

namespace FrameRouter.Json

/-- A field of a draft together with what its values mean. -/
structure Slot (δ : Type) where
  key : String
  Content : Type
  get : δ → Option Content
  set : δ → Content → δ
  read : Reader Content
  meaning : Tree → Option Content
  understood : Understands read meaning

namespace Slot

variable {δ : Type}

def field (slot : Slot δ) : Field δ := .of slot.key slot.get slot.set slot.read

/-- The draft with a value in the slot. -/
def fill (slot : Slot δ) (draft : δ) (tree : Tree) : Option δ :=
  (slot.meaning tree).map (slot.set draft)

theorem find?_field (slots : List (Slot δ)) (key : String) :
    ((slots.map field).find? fun field => field.key = key) =
      (slots.find? fun slot => slot.key = key).map field :=
  List.find?_map

/-- A value is read into its slot. -/
theorem understands (slot : Slot δ) (draft : δ) :
    Understands (slot.field.read draft) (slot.fill draft) := by
  intro tree written spelled gap rest delimited
  have value := slot.understood tree written spelled gap rest delimited
  change (slot.read (gap.text ++ (written ++ rest)) >>= fun taken =>
    pure (slot.set draft taken.1, taken.2)).toOption = _
  rw [Except.toOption_bind, value, fill]
  cases slot.meaning tree <;> rfl

end Slot

namespace RecordFormat

variable {δ α : Type}

/-- The draft behind a member, if the member may stand there. -/
def absorb (closed : Bool) (slots : List (Slot δ)) (draft : δ) : Option String × Tree → Option δ
  | (none, _) => none
  | (some key, tree) =>
      match slots.find? fun slot => slot.key = key with
      | some slot => if (slot.get draft).isSome then none else slot.fill draft tree
      | none => if closed then none else some draft

/-- The draft of values in declared order; values at the end may be missing. -/
def arrange : List (Slot δ) → δ → List Tree → Option δ
  | _, draft, [] => some draft
  | [], _, _ :: _ => none
  | slot :: slots, draft, tree :: trees =>
      (slot.fill draft tree).bind fun next => arrange slots next trees

theorem arrange_nil (slots : List (Slot δ)) (draft : δ) : arrange slots draft [] = some draft := by
  cases slots <;> rfl

/-- The first value goes into the first slot. -/
theorem arrange_cons_eq_some_iff {slot : Slot δ} {slots : List (Slot δ)} {draft final : δ}
    {tree : Tree} {trees : List Tree} :
    arrange (slot :: slots) draft (tree :: trees) = some final ↔
      ∃ content, slot.meaning tree = some content ∧
        arrange slots (slot.set draft content) trees = some final := by
  rw [arrange, Option.bind_eq_some_iff]
  constructor
  · rintro ⟨next, filled, further⟩
    obtain ⟨content, means, rfl⟩ := Option.map_eq_some_iff.mp filled
    exact ⟨content, means, further⟩
  · rintro ⟨content, means, further⟩
    exact ⟨_, Option.map_eq_some_iff.mpr ⟨content, means, rfl⟩, further⟩

/-- The draft of an object or a list. -/
def draft? (format : RecordFormat δ α) (slots : List (Slot δ)) : Tree → Option δ
  | .object members => members.foldlM (absorb format.closed slots) format.blank
  | .list items => arrange slots format.blank items
  | _ => none

/-- What a record means. -/
def meaning (format : RecordFormat δ α) (slots : List (Slot δ)) (tree : Tree) : Option α :=
  (format.draft? slots tree).bind fun draft => (format.complete draft).toOption

section Members

variable {member : Member}

/-- A closing brace is no key. -/
theorem nextKey_closing (first : Bool) (gap : Gap) (rest : List Char) :
    nextKey first (gap.text ++ '\x7d' :: rest) = .ok none := by
  rw [nextKey, gap.skip, skipBlanks_cons (by decide)]
  rfl

/-- The text of a member from its key on. -/
theorem Member.text_append (member : Member) (rest : List Char) :
    member.text ++ rest = member.before.text ++ '\x22' :: (member.key.flatMap Piece.text ++
      '\x22' :: (member.after.text ++ ':' :: (member.item.text ++ rest))) := by
  simp [Member.text, Piece.quoted]

/-- The first key stands behind blanks. -/
theorem nextKey_first (member : Member) (rest : List Char) :
    (nextKey true (member.text ++ rest)).toOption = (Piece.content? member.key).map fun key =>
      some (key, member.after.text ++ ':' :: (member.item.text ++ rest)) := by
  have key := Piece.readText_pieces member.key
    (member.after.text ++ ':' :: (member.item.text ++ rest))
  rw [Member.text_append, nextKey, Gap.skip, skipBlanks_cons (by decide)]
  change (readText _ >>= fun taken => pure (some taken)).toOption = _
  rw [Except.toOption_bind, key]
  cases Piece.content? member.key <;> rfl

/-- Another key stands behind a comma. -/
theorem nextKey_comma (member : Member) (gap : Gap) (rest : List Char) :
    (nextKey false (gap.text ++ ',' :: (member.text ++ rest))).toOption =
      (Piece.content? member.key).map fun key =>
        some (key, member.after.text ++ ':' :: (member.item.text ++ rest)) := by
  have key := Piece.readText_pieces member.key
    (member.after.text ++ ':' :: (member.item.text ++ rest))
  have front : skipBlanks (member.text ++ rest) = '\x22' :: (member.key.flatMap Piece.text ++
      '\x22' :: (member.after.text ++ ':' :: (member.item.text ++ rest))) := by
    rw [Member.text_append, Gap.skip, skipBlanks_cons (by decide)]
  have second : nextKey false (gap.text ++ ',' :: (member.text ++ rest)) =
      readText (member.key.flatMap Piece.text ++
        '\x22' :: (member.after.text ++ ':' :: (member.item.text ++ rest))) >>=
        fun taken => pure (some taken) := by
    rw [nextKey, gap.skip, skipBlanks_cons (by decide)]
    simp [front]
  rw [second, Except.toOption_bind, key]
  cases Piece.content? member.key <;> rfl

theorem colon_gap (gap : Gap) (rest : List Char) : colon (gap.text ++ ':' :: rest) = .ok rest := by
  rw [colon, gap.skip, skipBlanks_cons (by decide)]
  rfl

end Members

variable {format : RecordFormat δ α} {slots : List (Slot δ)} {members : List Member}

/-- The value of a member goes into the slot of its key, or is passed over. -/
theorem readMember_item (fields : format.fields = slots.map Slot.field) {item : Item}
    (spelled : Spells item.tree item.written) {rest : List Char} (delimited : Delimited rest)
    (draft : δ) (key : String) (gap : Gap) :
    (format.readMember draft key (gap.text ++ ':' :: (item.text ++ rest))).toOption =
      (absorb format.closed slots draft (some key, item.tree)).map
        (·, item.after.text ++ rest) := by
  have text :
      item.text ++ rest = item.before.text ++ (item.written ++ (item.after.text ++ rest)) := by
    simp [Item.text]
  have ended := item.after.delimited delimited
  rw [readMember, fields, Slot.find?_field, absorb]
  cases slots.find? fun slot => slot.key = key with
  | some slot =>
      have value := slot.understands draft _ _ spelled item.before _ ended
      simp only [Option.map_some]
      by_cases isSet : (slot.get draft).isSome = true
      · have refused : slot.field.isSet draft = true := isSet
        rw [if_pos isSet, if_pos refused]
        rfl
      · have taken : ¬slot.field.isSet draft = true := isSet
        rw [if_neg isSet, if_neg taken, colon_gap, ← value, ← text]
        rfl
  | none =>
      simp only [Option.map_none]
      cases format.closed with
      | true => rfl
      | false =>
          simp only [colon_gap, text, bind, Except.bind, spelled.skipValue item.before ended]
          rfl

/-- With a key in front the reading goes on behind its value. -/
theorem readMembers_next {fuel : Nat} {first : Bool} {draft : δ} {text rest : List Char}
    {key : Option String}
    (next : (nextKey first text).toOption = key.map fun key => some (key, rest)) :
    (format.readMembers (fuel + 1) first draft text).toOption =
      key.bind fun key => (format.readMember draft key rest).toOption.bind fun taken =>
        (format.readMembers fuel false taken.1 taken.2).toOption := by
  rw [readMembers]
  cases front : nextKey first text with
  | error failure =>
      rw [front] at next
      cases key with
      | none => rfl
      | some key => cases next
  | ok found =>
      rw [front] at next
      cases key with
      | none => cases next
      | some key =>
          cases next
          cases taken : format.readMember draft key rest with
          | error failure => simp [taken, Except.toOption]
          | ok result => simp [taken, Except.toOption]

/-- A closing brace ends the members. -/
theorem readMembers_closing (format : RecordFormat δ α) (fuel : Nat) (first : Bool) (draft : δ)
    (gap : Gap) (rest : List Char) :
    format.readMembers (fuel + 1) first draft (gap.text ++ '\x7d' :: rest) = .ok (draft, rest) := by
  rw [readMembers, nextKey_closing, gap.skip, skipBlanks_cons (by decide)]
  rfl

/-- What stands behind a member of an object ends a number. -/
theorem delimited_members (members : List Member) (gap : Gap) (rest : List Char) :
    Delimited (behind (members.map Member.text) ++ (gap.text ++ '\x7d' :: rest)) :=
  delimited_behind _ (gap.delimited (.cons rest (by decide)))

/-- The members behind another one are absorbed up to the closing brace. -/
theorem readMembers_behind (fields : format.fields = slots.map Slot.field)
    (spelled : ∀ member ∈ members, Spells member.item.tree member.item.written) {fuel : Nat}
    (enough : members.length < fuel) (draft : δ) (after gap : Gap) (rest : List Char) :
    (format.readMembers fuel false draft (after.text ++ (behind (members.map Member.text) ++
        (gap.text ++ '\x7d' :: rest)))).toOption =
      ((members.map Member.entry).foldlM (absorb format.closed slots) draft).map (·, rest) := by
  induction members generalizing fuel draft after with
  | nil =>
      obtain ⟨fuel, rfl⟩ := Nat.exists_eq_add_one.mpr enough
      have closed := readMembers_closing format fuel false draft (after.append gap) rest
      rw [Gap.text_append, List.append_assoc] at closed
      exact congrArg Except.toOption closed
  | cons member members ih =>
      obtain ⟨fuel, rfl⟩ := Nat.exists_eq_add_one.mpr (Nat.zero_lt_of_lt enough)
      obtain ⟨here, further⟩ := List.forall_mem_cons.mp spelled
      have next := nextKey_comma member after
        (behind (members.map Member.text) ++ (gap.text ++ '\x7d' :: rest))
      have text : behind ((member :: members).map Member.text) ++ (gap.text ++ '\x7d' :: rest) =
          ',' :: (member.text ++ (behind (members.map Member.text) ++
            (gap.text ++ '\x7d' :: rest))) := by
        simp [behind]
      rw [text, readMembers_next next, List.map_cons, List.foldlM_cons, Member.entry]
      cases Piece.content? member.key with
      | none => rfl
      | some key =>
          rw [Option.bind_some,
            readMember_item fields here (delimited_members members gap rest) draft key]
          cases absorb format.closed slots draft (some key, member.item.tree) with
          | none => rfl
          | some draft => exact ih further (Nat.lt_of_succ_lt_succ enough) draft member.item.after

/-- The members of an object are absorbed up to the closing brace. -/
theorem readMembers_members (fields : format.fields = slots.map Slot.field)
    (spelled : ∀ member ∈ members, Spells member.item.tree member.item.written) {fuel : Nat}
    (enough : members.length ≤ fuel) (draft : δ) (gap : Gap) (rest : List Char) :
    (format.readMembers (fuel + 1) true draft ([','].intercalate (members.map Member.text) ++
        (gap.text ++ '\x7d' :: rest))).toOption =
      ((members.map Member.entry).foldlM (absorb format.closed slots) draft).map (·, rest) := by
  cases members with
  | nil => exact congrArg Except.toOption (readMembers_closing format fuel true draft gap rest)
  | cons member members =>
      obtain ⟨here, further⟩ := List.forall_mem_cons.mp spelled
      have next := nextKey_first member
        (behind (members.map Member.text) ++ (gap.text ++ '\x7d' :: rest))
      rw [List.map_cons, intercalate_cons, List.append_assoc, readMembers_next next,
        List.map_cons, List.foldlM_cons, Member.entry]
      cases Piece.content? member.key with
      | none => rfl
      | some key =>
          rw [Option.bind_some,
            readMember_item fields here (delimited_members members gap rest) draft key]
          cases absorb format.closed slots draft (some key, member.item.tree) with
          | none => rfl
          | some draft =>
              exact readMembers_behind fields further enough draft member.item.after gap rest

section Arranged

/-- Values read in declared order, up to the closing bracket. -/
def readArranged (fields : List (Field δ)) (first : Bool) (draft : δ) (text : List Char) :
    Option (δ × List Char) :=
  (readElements fields first draft text).toOption.bind fun taken =>
    (closeSequence taken.2).toOption.map (taken.1, ·)

/-- With a value in front the reading goes on behind it. -/
theorem readArranged_next {first : Bool} {text front : List Char}
    (next : nextElement first text = .ok (some front)) (field : Field δ)
    (fields : List (Field δ)) (draft : δ) :
    readArranged (field :: fields) first draft text =
      (field.read draft front).toOption.bind fun taken =>
        readArranged fields false taken.1 taken.2 := by
  rw [readArranged, readElements, next]
  change ((field.read draft front >>= fun taken =>
    readElements fields false taken.1 taken.2).toOption.bind _) = _
  rw [Except.toOption_bind, Option.bind_assoc]
  rfl

/-- A closing bracket ends the values. -/
theorem readArranged_closing (fields : List (Field δ)) (first : Bool) (draft : δ) (gap : Gap)
    (rest : List Char) :
    readArranged fields first draft (gap.text ++ ']' :: rest) = some (draft, rest) := by
  have closed := closeSequence_closing gap rest
  have read : readElements fields first draft (gap.text ++ ']' :: rest) =
      .ok (draft, gap.text ++ ']' :: rest) := by
    cases fields with
    | nil => rfl
    | cons field fields =>
        rw [readElements, nextElement_closing]
        rfl
  rw [readArranged, read]
  change (closeSequence (gap.text ++ ']' :: rest)).toOption.map _ = _
  rw [closed]
  rfl

/-- Behind the last field no value may stand. -/
theorem readArranged_nil {text : List Char} (more : (closeSequence text).toOption = none)
    (first : Bool) (draft : δ) : readArranged [] first draft text = none :=
  congrArg (Option.map _) more

/-- A list does not end in front of a value. -/
theorem closeSequence_item {item : Item} (spelled : Spells item.tree item.written)
    (rest : List Char) : (closeSequence (item.text ++ rest)).toOption = none := by
  obtain ⟨first, others, written, kind⟩ := spelled.exists_first
  rw [Item.text, List.append_assoc, List.append_assoc, closeSequence, Gap.skip, written,
    List.cons_append, skipBlanks_cons (Kind.solid kind)]
  split
  · rfl
  · rename_i same
    cases same
    cases kind
  · rfl

variable {items : List Item}

/-- The values behind another one go into the slots in declared order. -/
theorem readArranged_behind
    (spelled : ∀ item ∈ items, Spells item.tree item.written) (slots : List (Slot δ)) (draft : δ)
    (after gap : Gap) (rest : List Char) :
    readArranged (slots.map Slot.field) false draft (after.text ++
        (behind (items.map Item.text) ++ (gap.text ++ ']' :: rest))) =
      (arrange slots draft (items.map Item.tree)).map (·, rest) := by
  induction items generalizing slots draft after with
  | nil =>
      have closed := readArranged_closing (slots.map Slot.field) false draft (after.append gap) rest
      rw [Gap.text_append, List.append_assoc] at closed
      rw [List.map_nil, List.map_nil, arrange_nil]
      exact closed
  | cons item items ih =>
      obtain ⟨here, further⟩ := List.forall_mem_cons.mp spelled
      have text : behind ((item :: items).map Item.text) ++ (gap.text ++ ']' :: rest) =
          ',' :: (item.text ++ (behind (items.map Item.text) ++ (gap.text ++ ']' :: rest))) := by
        simp [behind]
      rw [text, List.map_cons]
      cases slots with
      | nil => exact readArranged_nil (closeSequence_comma after _) false draft
      | cons slot slots =>
          have next := nextElement_comma here after
            (behind (items.map Item.text) ++ (gap.text ++ ']' :: rest))
          have value := slot.understands draft _ _ here .none _
            (item.after.delimited (delimited_items items gap rest))
          rw [Gap.text_none, List.nil_append] at value
          rw [List.map_cons, readArranged_next next, value, arrange]
          cases slot.fill draft item.tree with
          | none => rfl
          | some draft => exact ih further slots draft item.after

/-- The values of a list go into the slots in declared order. -/
theorem readArranged_items
    (spelled : ∀ item ∈ items, Spells item.tree item.written) (slots : List (Slot δ)) (draft : δ)
    (gap : Gap) (rest : List Char) :
    readArranged (slots.map Slot.field) true draft
        ([','].intercalate (items.map Item.text) ++ (gap.text ++ ']' :: rest)) =
      (arrange slots draft (items.map Item.tree)).map (·, rest) := by
  cases items with
  | nil =>
      rw [List.map_nil, List.map_nil, arrange_nil]
      exact readArranged_closing (slots.map Slot.field) true draft gap rest
  | cons item items =>
      obtain ⟨here, further⟩ := List.forall_mem_cons.mp spelled
      rw [List.map_cons, intercalate_cons, List.append_assoc, List.map_cons]
      cases slots with
      | nil => exact readArranged_nil (closeSequence_item here _) true draft
      | cons slot slots =>
          have next := nextElement_first here
            (behind (items.map Item.text) ++ (gap.text ++ ']' :: rest))
          have value := slot.understands draft _ _ here .none _
            (item.after.delimited (delimited_items items gap rest))
          rw [Gap.text_none, List.nil_append] at value
          rw [List.map_cons, readArranged_next next, value, arrange]
          cases slot.fill draft item.tree with
          | none => rfl
          | some draft => exact readArranged_behind further slots draft item.after gap rest

/-- A record is complete or not before its list is closed. -/
theorem readSequence_toOption (format : RecordFormat δ α) (text : List Char) :
    (format.readSequence text).toOption =
      (readArranged format.fields true format.blank text).bind fun taken =>
        (format.complete taken.1).toOption.map (·, taken.2) := by
  rw [readSequence, Except.toOption_bind, readArranged, Option.bind_assoc]
  congr 1
  funext taken
  obtain ⟨draft, rest⟩ := taken
  dsimp only
  cases completed : format.complete draft with
  | error key =>
      cases closeSequence rest with
      | error failure => rfl
      | ok rest => exact (congrArg (fun outcome => outcome.toOption.map (·, rest)) completed).symm
  | ok value =>
      cases closeSequence rest with
      | error failure => rfl
      | ok rest => exact (congrArg (fun outcome => outcome.toOption.map (·, rest)) completed).symm

end Arranged

/-- What does not begin with a bracket or a brace is no record. -/
theorem read_refuses {first : Char} {kind : Kind} (begins : Kind.ofInitial first = some kind)
    (other : kind ≠ .list ∧ kind ≠ .object) (format : RecordFormat δ α) (gap : Gap)
    (rest : List Char) : (format.read (gap.text ++ first :: rest)).toOption = none := by
  rw [read, gap.skip, skipBlanks_cons (Kind.solid begins)]
  split
  · rfl
  · rename_i same
    cases same
    cases begins
    exact absurd rfl other.1
  · rename_i same
    cases same
    cases begins
    exact absurd rfl other.2
  · exact toOption_wrongType _ _

/-- A record is understood if its fields are. -/
theorem understands (fields : format.fields = slots.map Slot.field) :
    Understands format.read (format.meaning slots) := by
  intro tree written spelled gap rest delimited
  cases tree with
  | list trees =>
      cases spelled with
      | list items inner spelled =>
          rw [bracketed_append, read, gap.skip, skipBlanks_cons (by decide)]
          refine (readSequence_toOption format _).trans ?_
          rw [fields, readArranged_items spelled slots format.blank inner rest, meaning, draft?]
          cases arrange slots format.blank (items.map Item.tree) <;> rfl
  | object entries =>
      cases spelled with
      | object members inner spelled =>
          rw [bracketed_append, read, gap.skip, skipBlanks_cons (by decide)]
          have length := length_intercalate (members.map Member.text)
          rw [List.length_map] at length
          have enough : members.length ≤ ([','].intercalate (members.map Member.text) ++
              (inner.text ++ '\x7d' :: rest)).length := by
            simp only [List.length_append, List.length_cons]
            omega
          have absorbed := readMembers_members fields spelled enough format.blank inner rest
          refine (Except.toOption_bind _ _).trans ?_
          rw [absorbed, meaning, draft?]
          cases (members.map Member.entry).foldlM (absorb format.closed slots) format.blank with
          | none => rfl
          | some draft => cases completed : format.complete draft <;> simp [completed] <;> rfl
  | _ =>
      obtain ⟨first, others, rfl, kind⟩ := spelled.exists_first
      exact read_refuses kind ⟨nofun, nofun⟩ format gap (others ++ rest)

end RecordFormat

end FrameRouter.Json
