import FrameRouter.Proofs.Json.Texts
import Mathlib.Tactic.SplitIfs

/-!
# What is written

A value is written as a text that spells it, in the compact form as well as in
the indented one.
-/

namespace FrameRouter.Json

namespace Value

mutual

/-- What a value says. -/
def tree : Value → Tree
  | .null => .null
  | .boolean value => .boolean value
  | .number value => .number (.natural value)
  | .text content => .text (some content)
  | .list items => .list (trees items)
  | .object members => .object (entries members)

def trees : List Value → List Tree
  | [] => []
  | item :: items => item.tree :: trees items

def entries : List (String × Value) → List (Option String × Tree)
  | [] => []
  | (key, value) :: members => (some key, value.tree) :: entries members

end

/-- A statement about values may be assumed of the parts of a list or an object. -/
theorem induct {motive : Value → Prop} (null : motive .null)
    (boolean : ∀ value, motive (.boolean value)) (number : ∀ value, motive (.number value))
    (text : ∀ content, motive (.text content))
    (list : ∀ items, (∀ item ∈ items, motive item) → motive (.list items))
    (object : ∀ members, (∀ member ∈ members, motive member.2) → motive (.object members))
    (value : Value) : motive value := by
  refine @Value.rec motive (fun items => ∀ item ∈ items, motive item)
    (fun members => ∀ member ∈ members, motive member.2) (fun member => motive member.2)
    null boolean number text list object ?_ ?_ ?_ ?_ ?_ value
  · exact nofun
  · exact fun item items first others => List.forall_mem_cons.mpr ⟨first, others⟩
  · exact nofun
  · exact fun member members first others => List.forall_mem_cons.mpr ⟨first, others⟩
  · exact fun key value ih => ih

theorem trees_eq_map (items : List Value) : trees items = items.map tree := by
  induction items with
  | nil => rfl
  | cons item items ih => rw [trees, ih, List.map_cons]

theorem entries_eq_map (members : List (String × Value)) :
    entries members = members.map fun member => (some member.1, member.2.tree) := by
  induction members with
  | nil => rfl
  | cons member members ih => rw [entries, ih, List.map_cons]

/-- Values with commas between them, each written the same way. -/
theorem compactItems_eq (items : List Value) :
    compactItems items = [','].intercalate (items.map compact) := by
  induction items with
  | nil => rfl
  | cons item items ih =>
      cases items with
      | nil => simp [compactItems]
      | cons next items => simp [compactItems, ih, List.intercalate_cons_cons]

theorem indentedItems_eq (depth : Nat) (items : List Value) :
    indentedItems depth items =
      [','].intercalate (items.map fun item => newLine depth ++ item.indented depth) := by
  induction items with
  | nil => rfl
  | cons item items ih =>
      cases items with
      | nil => simp [indentedItems]
      | cons next items => simp [indentedItems, ih, List.intercalate_cons_cons]

theorem compactMembers_eq (members : List (String × Value)) :
    compactMembers members = [','].intercalate
      (members.map fun member => quote member.1 ++ ':' :: member.2.compact) := by
  induction members with
  | nil => rfl
  | cons member members ih =>
      cases members with
      | nil => simp [compactMembers]
      | cons next members => simp [compactMembers, ih, List.intercalate_cons_cons]

theorem indentedMembers_eq (depth : Nat) (members : List (String × Value)) :
    indentedMembers depth members = [','].intercalate (members.map fun member =>
      newLine depth ++ quote member.1 ++ ':' :: ' ' :: member.2.indented depth) := by
  induction members with
  | nil => rfl
  | cons member members ih =>
      cases members with
      | nil => simp [indentedMembers]
      | cons next members => simp [indentedMembers, ih, List.intercalate_cons_cons]

end Value

section Texts

/-- A control character is written with four digits. -/
theorem exists_codeUnit {character : Char} (control : character.toNat < 0x20) :
    ∃ unit : CodeUnit, unit.text = Digits.renderPadded 16 4 character.toNat ∧
      unit.value = character.toNat := by
  have digits : ∀ value < 0x20, Digits.renderPadded 16 4 value =
      ['0', '0', Nat.digitChar (value / 16), Nat.digitChar (value % 16)] := by
    decide
  refine ⟨⟨⟨0, false⟩, ⟨0, false⟩, ⟨⟨character.toNat / 16, by omega⟩, false⟩,
    ⟨⟨character.toNat % 16, by omega⟩, false⟩⟩, (digits _ control).symm, ?_⟩
  simp only [CodeUnit.value]
  omega

/-- A character is written as one piece that stands for it. -/
theorem exists_piece (character : Char) : ∃ piece : Piece,
    piece.text = Value.escape character ∧ ∀ pieces, Piece.characters? (piece :: pieces) =
      (Piece.characters? pieces).map (character :: ·) := by
  unfold Value.escape
  split_ifs with quote slash back tab line feed carriage control
  · exact ⟨.short .quote, rfl, fun _ => by subst quote; rfl⟩
  · exact ⟨.short .backslash, rfl, fun _ => by subst slash; rfl⟩
  · exact ⟨.short .backspace, rfl, fun _ => by subst back; rfl⟩
  · exact ⟨.short .tab, rfl, fun _ => by subst tab; rfl⟩
  · exact ⟨.short .lineFeed, rfl, fun _ => by subst line; rfl⟩
  · exact ⟨.short .formFeed, rfl, fun _ => by subst feed; rfl⟩
  · exact ⟨.short .carriageReturn, rfl, fun _ => by subst carriage; rfl⟩
  · obtain ⟨unit, text, value⟩ := exists_codeUnit control
    refine ⟨.code unit, congrArg ('\\' :: 'u' :: ·) text, fun pieces => ?_⟩
    have notTrailing : isTrailing unit.value = false := by
      simp [isTrailing]
      omega
    have notLeading : isLeading unit.value = false := by
      simp [isLeading]
      omega
    rw [Piece.characters?_code, notTrailing, notLeading, value, Char.ofNat_toNat]
    rfl
  · exact ⟨.plain character (Nat.le_of_not_lt control) quote slash, rfl, fun _ => rfl⟩

theorem exists_pieces (characters : List Char) : ∃ pieces : List Piece,
    pieces.flatMap Piece.text = characters.flatMap Value.escape ∧
      Piece.characters? pieces = some characters := by
  induction characters with
  | nil => exact ⟨[], rfl, rfl⟩
  | cons character characters ih =>
      obtain ⟨pieces, text, content⟩ := ih
      obtain ⟨piece, escape, means⟩ := exists_piece character
      refine ⟨piece :: pieces, ?_, ?_⟩
      · rw [List.flatMap_cons, List.flatMap_cons, escape, text]
      · rw [means, content, Option.map_some]

/-- A text between quotes stands for its characters. -/
theorem exists_quoted (content : String) : ∃ pieces : List Piece,
    Piece.quoted pieces = Value.quote content ∧ Piece.content? pieces = some content := by
  obtain ⟨pieces, text, means⟩ := exists_pieces content.toList
  refine ⟨pieces, ?_, ?_⟩
  · rw [Piece.quoted, Value.quote, text]
  · rw [Piece.content?, means, Option.map_some, String.ofList_toList]

theorem spells_quote (content : String) : Spells (.text (some content)) (Value.quote content) := by
  obtain ⟨pieces, quoted, means⟩ := exists_quoted content
  have spelled := Spells.text pieces
  rwa [quoted, means] at spelled

theorem spells_digits (value : Nat) :
    Spells (.number (.natural value)) (Digits.render 10 value) := by
  have spelled := Spells.number (.natural value)
  rwa [Numeral.text_natural] at spelled

end Texts

section Layouts

variable {write : Value → List Char}

/-- Values written one after the other spell a list. -/
theorem spells_items (before after : Gap) {items : List Value}
    (spelled : ∀ item ∈ items, Spells item.tree (write item)) :
    Spells (Value.list items).tree
      ('[' :: [','].intercalate (items.map fun item => before.text ++ write item) ++
        after.text ++ [']']) := by
  have list := Spells.list (items.map fun item => ⟨before, item.tree, write item, .none⟩) after
    (List.forall_mem_map.mpr spelled)
  simpa [Value.tree, Value.trees_eq_map, Item.text, Function.comp_def] using list

/-- A key with its value. -/
theorem exists_members (before space : Gap) {members : List (String × Value)}
    (spelled : ∀ member ∈ members, Spells member.2.tree (write member.2)) :
    ∃ parts : List Member,
      parts.map Member.entry = Value.entries members ∧
      (parts.map Member.text = members.map fun member =>
        before.text ++ Value.quote member.1 ++ ':' :: (space.text ++ write member.2)) ∧
      ∀ part ∈ parts, Spells part.item.tree part.item.written := by
  induction members with
  | nil => exact ⟨[], rfl, rfl, nofun⟩
  | cons member members ih =>
      obtain ⟨here, further⟩ := List.forall_mem_cons.mp spelled
      obtain ⟨parts, entries, texts, spelled⟩ := ih further
      obtain ⟨pieces, quoted, content⟩ := exists_quoted member.1
      refine ⟨⟨before, pieces, .none, ⟨space, member.2.tree, write member.2, .none⟩⟩ :: parts,
        ?_, ?_, List.forall_mem_cons.mpr ⟨here, spelled⟩⟩
      · rw [List.map_cons, entries, Member.entry, content, Value.entries]
      · simp [texts, Member.text, Item.text, quoted]

/-- Members written one after the other spell an object. -/
theorem spells_members (before space after : Gap) {members : List (String × Value)}
    (spelled : ∀ member ∈ members, Spells member.2.tree (write member.2)) :
    Spells (Value.object members).tree
      ('\x7b' :: [','].intercalate (members.map fun member =>
        before.text ++ Value.quote member.1 ++ ':' :: (space.text ++ write member.2)) ++
        after.text ++ ['\x7d']) := by
  obtain ⟨parts, entries, texts, spelled⟩ := exists_members before space spelled
  have object := Spells.object parts after spelled
  rwa [entries, texts] at object

end Layouts

namespace Value

/-- The compact form spells the value. -/
theorem spells_compact (value : Value) : Spells value.tree value.compact := by
  induction value using induct with
  | null => exact .null
  | boolean value => exact .boolean value
  | number value => exact spells_digits value
  | text content => exact spells_quote content
  | list items ih =>
      have spelled := spells_items .none .none ih
      simpa [compact, compactItems_eq] using spelled
  | object members ih =>
      have spelled := spells_members .none .none .none ih
      simpa [compact, compactMembers_eq] using spelled

/-- A line break and blanks in front of a line. -/
def lineGap (depth : Nat) : Gap where
  text := newLine depth
  blank := List.forall_mem_cons.mpr ⟨rfl, fun _ membership =>
    List.eq_of_mem_replicate membership ▸ rfl⟩

/-- The indented form spells the value. -/
theorem spells_indented (value : Value) (depth : Nat) :
    Spells value.tree (value.indented depth) := by
  induction value using induct generalizing depth with
  | null => exact .null
  | boolean value => exact .boolean value
  | number value => exact spells_digits value
  | text content => exact spells_quote content
  | list items ih =>
      cases items with
      | nil => exact .list [] .none nofun
      | cons item items =>
          have spelled := spells_items (lineGap (depth + 1)) (lineGap depth)
            fun item membership => ih item membership (depth + 1)
          rw [indented, indentedItems_eq]
          exact spelled
  | object members ih =>
      cases members with
      | nil => exact .object [] .none nofun
      | cons member members =>
          have blank : ∀ character ∈ [' '], isBlank character = true :=
            List.forall_mem_cons.mpr ⟨rfl, nofun⟩
          have spelled := spells_members (lineGap (depth + 1)) ⟨[' '], blank⟩ (lineGap depth)
            fun member membership => ih member membership (depth + 1)
          rw [indented, indentedMembers_eq]
          exact spelled

/-- Both texts of a value represent it. -/
theorem represents_render (value : Value) : Represents value.render value.tree := by
  refine ⟨.none, value.compact, .none, ?_, value.spells_compact⟩
  simp [render]

theorem represents_renderIndented (value : Value) : Represents value.renderIndented value.tree := by
  refine ⟨.none, value.indented 0, .none, ?_, value.spells_indented 0⟩
  simp [renderIndented]

end Value

end FrameRouter.Json
