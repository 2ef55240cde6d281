import FrameRouter.Json.Text
import FrameRouter.Json.Value
import FrameRouter.Proofs.Json.Numeral

/-!
# The grammar of documents

A document is a tree.  Many texts spell the same tree: blanks may stand between
its parts, and a character of a text may be written as an escape.  A number is
kept as it is written, and a text that escapes half of a surrogate pair alone
is well formed but stands for no characters.
-/

namespace FrameRouter.Json

/-- Characters between two parts of a document. -/
structure Gap where
  text : List Char
  blank : ∀ character ∈ text, isBlank character = true

/-- A hexadecimal digit in either letter case. -/
structure HexDigit where
  value : Fin 16
  capital : Bool

def HexDigit.char (digit : HexDigit) : Char :=
  if digit.capital then (Nat.digitChar digit.value).toUpper else Nat.digitChar digit.value

/-- Four hexadecimal digits. -/
structure CodeUnit where
  first : HexDigit
  second : HexDigit
  third : HexDigit
  fourth : HexDigit

namespace CodeUnit

def value (unit : CodeUnit) : Nat :=
  ((unit.first.value * 16 + unit.second.value) * 16 + unit.third.value) * 16 + unit.fourth.value

def text (unit : CodeUnit) : List Char :=
  [unit.first.char, unit.second.char, unit.third.char, unit.fourth.char]

end CodeUnit

/-- The characters with an escape of one letter. -/
inductive Escape where
  | quote
  | backslash
  | slash
  | backspace
  | formFeed
  | lineFeed
  | carriageReturn
  | tab
deriving DecidableEq, Repr

namespace Escape

def letter : Escape → Char
  | .quote => '\x22'
  | .backslash => '\\'
  | .slash => '/'
  | .backspace => 'b'
  | .formFeed => 'f'
  | .lineFeed => 'n'
  | .carriageReturn => 'r'
  | .tab => 't'

def character : Escape → Char
  | .quote => '\x22'
  | .backslash => '\\'
  | .slash => '/'
  | .backspace => '\x08'
  | .formFeed => '\x0c'
  | .lineFeed => '\n'
  | .carriageReturn => '\r'
  | .tab => '\t'

end Escape

/-- A part of a text between its quotes. -/
inductive Piece where
  | plain (character : Char) (visible : 0x20 ≤ character.toNat) (unquoted : character ≠ '\x22')
      (unescaped : character ≠ '\\')
  | short (escape : Escape)
  | code (unit : CodeUnit)

namespace Piece

def text : Piece → List Char
  | .plain character _ _ _ => [character]
  | .short escape => ['\\', escape.letter]
  | .code unit => '\\' :: 'u' :: unit.text

/-- The pieces between quotes. -/
def quoted (pieces : List Piece) : List Char :=
  '\x22' :: pieces.flatMap text ++ ['\x22']

/-- The characters that pieces stand for, if no half of a surrogate pair stands alone. -/
def characters? : List Piece → Option (List Char)
  | [] => some []
  | .plain character _ _ _ :: rest => (characters? rest).map (character :: ·)
  | .short escape :: rest => (characters? rest).map (escape.character :: ·)
  | .code unit :: rest =>
      if isTrailing unit.value then
        none
      else if isLeading unit.value then
        match rest with
        | .code other :: rest =>
            if isTrailing other.value then
              (characters? rest).map (pairedCharacter unit.value other.value :: ·)
            else
              none
        | _ => none
      else
        (characters? rest).map (Char.ofNat unit.value :: ·)

def content? (pieces : List Piece) : Option String := (characters? pieces).map String.ofList

end Piece

/-- The exponent of a number. -/
structure Exponent where
  capital : Bool
  /-- The sign, if there is one: `true` stands for minus. -/
  sign : Option Bool
  first : Fin 10
  others : List (Fin 10)
deriving DecidableEq, Repr

def digitText (digits : List (Fin 10)) : List Char :=
  digits.map fun digit : Fin 10 => Nat.digitChar digit

namespace Exponent

def letter (exponent : Exponent) : Char := if exponent.capital then 'E' else 'e'

def signText : Option Bool → List Char
  | none => []
  | some false => ['+']
  | some true => ['-']

def text (exponent : Exponent) : List Char :=
  exponent.letter :: signText exponent.sign ++ digitText (exponent.first :: exponent.others)

end Exponent

/-- A number as it is written. -/
structure Numeral where
  negative : Bool
  whole : Nat
  /-- The places behind the point; there is no point without any. -/
  places : List (Fin 10)
  exponent : Option Exponent
deriving DecidableEq, Repr

namespace Numeral

/-- A natural number. -/
def natural (value : Nat) : Numeral := ⟨false, value, [], none⟩

def fractionText : List (Fin 10) → List Char
  | [] => []
  | digit :: others => '.' :: digitText (digit :: others)

def exponentText : Option Exponent → List Char
  | none => []
  | some exponent => exponent.text

/-- What follows the digits in front of the point. -/
def tail (numeral : Numeral) : List Char :=
  fractionText numeral.places ++ exponentText numeral.exponent

def unsigned (numeral : Numeral) : List Char := Digits.render 10 numeral.whole ++ numeral.tail

def text (numeral : Numeral) : List Char :=
  if numeral.negative then '-' :: numeral.unsigned else numeral.unsigned

theorem text_natural (value : Nat) : (natural value).text = Digits.render 10 value :=
  List.append_nil _

end Numeral

/-- What a document says. -/
inductive Tree where
  | null
  | boolean (value : Bool)
  | number (numeral : Numeral)
  /-- There is no content if the text escapes half of a surrogate pair alone. -/
  | text (content : Option String)
  | list (items : List Tree)
  | object (members : List (Option String × Tree))

/-- A value of a list or an object with the blanks around it. -/
structure Item where
  before : Gap
  tree : Tree
  written : List Char
  after : Gap

def Item.text (item : Item) : List Char := item.before.text ++ item.written ++ item.after.text

/-- A key with its value and the blanks around them. -/
structure Member where
  before : Gap
  key : List Piece
  after : Gap
  item : Item

namespace Member

def text (member : Member) : List Char :=
  member.before.text ++ Piece.quoted member.key ++ member.after.text ++ ':' :: member.item.text

/-- What the member says. -/
def entry (member : Member) : Option String × Tree :=
  (Piece.content? member.key, member.item.tree)

end Member

/-- The text spells the tree. -/
inductive Spells : Tree → List Char → Prop where
  | null : Spells .null "null".toList
  | boolean (value : Bool) : Spells (.boolean value) (Value.truth value)
  | number (numeral : Numeral) : Spells (.number numeral) numeral.text
  | text (pieces : List Piece) : Spells (.text (Piece.content? pieces)) (Piece.quoted pieces)
  | list (items : List Item) (gap : Gap)
      (spelled : ∀ item ∈ items, Spells item.tree item.written) :
      Spells (.list (items.map Item.tree))
        ('[' :: [','].intercalate (items.map Item.text) ++ gap.text ++ [']'])
  | object (members : List Member) (gap : Gap)
      (spelled : ∀ member ∈ members, Spells member.item.tree member.item.written) :
      Spells (.object (members.map Member.entry))
        ('\x7b' :: [','].intercalate (members.map Member.text) ++ gap.text ++ ['\x7d'])

/-- The whole text spells the tree; blanks may stand around it. -/
def Represents (text : String) (tree : Tree) : Prop :=
  ∃ (before : Gap) (written : List Char) (after : Gap),
    text.toList = before.text ++ written ++ after.text ∧ Spells tree written

section Blanks

theorem skipBlanks_cons {character : Char} (solid : isBlank character = false) (rest : List Char) :
    skipBlanks (character :: rest) = character :: rest := by
  simp [skipBlanks, solid]

theorem isBlank_of_isDigit {character : Char} (isDigit : character.isDigit = true) :
    isBlank character = false := by
  refine Bool.eq_false_iff.mpr fun blank => ?_
  simp only [isBlank, Bool.or_eq_true, decide_eq_true_eq] at blank
  rcases blank with ((rfl | rfl) | rfl) | rfl <;> cases isDigit

namespace Gap

def none : Gap := ⟨[], by simp⟩

/-- Two gaps in a row are one. -/
def append (first second : Gap) : Gap where
  text := first.text ++ second.text
  blank := List.forall_mem_append.mpr ⟨first.blank, second.blank⟩

@[simp]
theorem text_none : none.text = [] := rfl

@[simp]
theorem text_append (first second : Gap) : (first.append second).text = first.text ++ second.text :=
  rfl

/-- Blanks in front of a text do not count. -/
theorem skip (gap : Gap) (text : List Char) : skipBlanks (gap.text ++ text) = skipBlanks text := by
  obtain ⟨blanks, blank⟩ := gap
  induction blanks with
  | nil => rfl
  | cons character blanks ih =>
      obtain ⟨here, further⟩ := List.forall_mem_cons.mp blank
      rw [List.cons_append, skipBlanks, List.dropWhile_cons_of_pos here]
      exact ih further

/-- Blanks end a number. -/
theorem delimited (gap : Gap) {rest : List Char} (ended : Delimited rest) :
    Delimited (gap.text ++ rest) := by
  obtain ⟨blanks, blank⟩ := gap
  cases blanks with
  | nil => exact ended
  | cons character blanks =>
      intro first same
      cases same
      have here := (List.forall_mem_cons.mp blank).1
      simp only [isBlank, Bool.or_eq_true, decide_eq_true_eq] at here
      rcases here with ((rfl | rfl) | rfl) | rfl <;> decide

end Gap

end Blanks

/-- What follows the first part of a list behind commas. -/
def behind (parts : List (List Char)) : List Char := parts.flatMap (',' :: ·)

theorem intercalate_cons (part : List Char) (parts : List (List Char)) :
    [','].intercalate (part :: parts) = part ++ behind parts := by
  induction parts generalizing part with
  | nil => simp [behind]
  | cons next parts ih =>
      rw [List.intercalate_cons_cons, ih]
      simp [behind]

/-- The parts between brackets with a text behind them. -/
theorem bracketed_append (opening closing : Char) (parts : List (List Char)) (gap : Gap)
    (rest : List Char) :
    opening :: [','].intercalate parts ++ gap.text ++ [closing] ++ rest =
      opening :: ([','].intercalate parts ++ (gap.text ++ closing :: rest)) := by
  simp

/-- Each part but the first has a comma in front. -/
theorem length_intercalate (parts : List (List Char)) :
    parts.length ≤ ([','].intercalate parts).length + 1 := by
  induction parts with
  | nil => exact Nat.zero_le _
  | cons part parts ih =>
      cases parts with
      | nil => simp
      | cons next others =>
          rw [List.intercalate_cons_cons]
          simp only [List.length_cons, List.length_append] at ih ⊢
          omega

theorem delimited_behind (parts : List (List Char)) {rest : List Char} (ended : Delimited rest) :
    Delimited (behind parts ++ rest) := by
  cases parts with
  | nil => exact ended
  | cons part parts => exact .cons _ (by decide)

/-- The kinds of trees, told apart by the first character of their text. -/
inductive Kind where
  | null
  | boolean
  | number
  | text
  | list
  | object
deriving DecidableEq, Repr

def Tree.kind : Tree → Kind
  | .null => .null
  | .boolean _ => .boolean
  | .number _ => .number
  | .text _ => .text
  | .list _ => .list
  | .object _ => .object

/-- The kind of the trees whose text begins with the character. -/
def Kind.ofInitial (initial : Char) : Option Kind :=
  if initial = 'n' then some .null
  else if initial = 't' ∨ initial = 'f' then some .boolean
  else if initial = '\x22' then some .text
  else if initial = '[' then some .list
  else if initial = '\x7b' then some .object
  else if initial = '-' ∨ initial.isDigit then some .number
  else none

theorem Kind.ofInitial_digit {digit : Char} (isDigit : digit.isDigit = true) :
    ofInitial digit = some .number := by
  have other (letter : Char) (none : letter.isDigit = false) : digit ≠ letter := by
    rintro rfl
    rw [none] at isDigit
    cases isDigit
  simp [ofInitial, other 'n' (by decide), other 't' (by decide), other 'f' (by decide),
    other '\x22' (by decide), other '[' (by decide), other '\x7b' (by decide), isDigit]

/-- No value begins with a blank. -/
theorem Kind.solid {initial : Char} {kind : Kind} (begins : ofInitial initial = some kind) :
    isBlank initial = false := by
  refine Bool.eq_false_iff.mpr fun blank => ?_
  simp only [isBlank, Bool.or_eq_true, decide_eq_true_eq] at blank
  rcases blank with ((rfl | rfl) | rfl) | rfl <;> cases begins

theorem Numeral.exists_first (numeral : Numeral) :
    ∃ first rest, numeral.text = first :: rest ∧ (first = '-' ∨ first.isDigit = true) := by
  unfold text
  cases numeral.negative with
  | true => exact ⟨_, _, rfl, Or.inl rfl⟩
  | false =>
      obtain ⟨first, rest, digits, isDigit, _⟩ := exists_digits numeral.whole
      refine ⟨first, rest ++ numeral.tail, ?_, Or.inr isDigit⟩
      rw [if_neg (by decide), unsigned, digits, List.cons_append]

/-- The first character of a text tells the kind of the tree. -/
theorem Spells.exists_first {tree : Tree} {written : List Char} (spelled : Spells tree written) :
    ∃ first rest, written = first :: rest ∧ Kind.ofInitial first = some tree.kind := by
  cases spelled with
  | null => exact ⟨_, _, rfl, rfl⟩
  | boolean value => cases value <;> exact ⟨_, _, rfl, rfl⟩
  | number numeral =>
      obtain ⟨first, rest, text, rfl | isDigit⟩ := numeral.exists_first
      · exact ⟨_, _, text, rfl⟩
      · exact ⟨_, _, text, Kind.ofInitial_digit isDigit⟩
  | text pieces => exact ⟨_, _, rfl, rfl⟩
  | list items gap inner => exact ⟨_, _, rfl, rfl⟩
  | object members gap inner => exact ⟨_, _, rfl, rfl⟩

end FrameRouter.Json
