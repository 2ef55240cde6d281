import FrameRouter.Json.Scalar
import FrameRouter.Proofs.Json.Numbers
import FrameRouter.Proofs.Json.Texts

/-!
# What a tree means to a reader

A reader is understood if it takes from every spelling of a tree the value that
the tree means, leaves the text behind it, and fails where the tree means no
value.  Blanks and escapes then do not matter.
-/

namespace FrameRouter

theorem Except.toOption_eq_some_iff {ε α : Type} {outcome : Except ε α} {value : α} :
    outcome.toOption = some value ↔ outcome = .ok value := by
  cases outcome with
  | error failure => exact ⟨nofun, nofun⟩
  | ok other => simp [Except.toOption]

theorem Except.toOption_bind {ε α β : Type} (first : Except ε α) (next : α → Except ε β) :
    (first >>= next).toOption = first.toOption.bind fun value => (next value).toOption := by
  cases first with
  | error failure => rfl
  | ok value => rfl

namespace Json

variable {α β : Type}

/-- The reader takes from each spelling of a tree what the tree means, and nothing behind it. -/
def Understands (read : Reader α) (meaning : Tree → Option α) : Prop :=
  ∀ (tree : Tree) (written : List Char), Spells tree written →
    ∀ (gap : Gap) (rest : List Char), Delimited rest →
      (read (gap.text ++ (written ++ rest))).toOption = (meaning tree).map (·, rest)

namespace Tree

/-- A number that is written as a natural one. -/
def natural? (limit : Nat) : Tree → Option Nat
  | .number ⟨false, value, [], none⟩ => if value ≤ limit then some value else none
  | _ => none

def uint8? (tree : Tree) : Option UInt8 := (tree.natural? 0xff).map UInt8.ofNat

def uint16? (tree : Tree) : Option UInt16 := (tree.natural? 0xffff).map UInt16.ofNat

def uint32? (tree : Tree) : Option UInt32 := (tree.natural? 0xffffffff).map UInt32.ofNat

def boolean? : Tree → Option Bool
  | .boolean value => some value
  | _ => none

def text? : Tree → Option String
  | .text content => content
  | _ => none

def optional? (meaning : Tree → Option α) : Tree → Option (Option α)
  | .null => some none
  | tree => (meaning tree).map some

end Tree

/-- The whole of a document is read as what it says means. -/
theorem Understands.document {read : Reader α} {meaning : Tree → Option α}
    (understands : Understands read meaning) {text : String} {tree : Tree}
    (represents : Represents text tree) : (document read text).toOption = meaning tree := by
  obtain ⟨before, written, after, whole, spelled⟩ := represents
  have taken := understands tree written spelled before after.text
    (by simpa using after.delimited .nil)
  have blank : (skipBlanks after.text).isEmpty = true := by
    have skipped := after.skip []
    rw [List.append_nil] at skipped
    rw [skipped]
    rfl
  rw [Json.document, Except.toOption_bind, whole, List.append_assoc, taken]
  cases meaning tree with
  | none => rfl
  | some value =>
      change (if (skipBlanks after.text).isEmpty = true then pure value
        else throw Failure.malformed : Except Failure α).toOption = some value
      rw [if_pos blank]
      rfl

/-- What is made of a value is understood if the value is. -/
theorem Understands.andThen {read : Reader α} {meaning : Tree → Option α}
    (understands : Understands read meaning) {next : α → Option β} {further : Reader β}
    (steps : ∀ text, (further text).toOption =
      (read text).toOption.bind fun taken => (next taken.1).map (·, taken.2)) :
    Understands further fun tree => (meaning tree).bind next := by
  intro tree written spelled gap rest delimited
  rw [steps, understands tree written spelled gap rest delimited]
  dsimp only
  cases meaning tree with
  | none => rfl
  | some value => rfl

/-- A value of another type is refused. -/
theorem toOption_wrongType (expected : String) (text : List Char) :
    (wrongType expected text : Except Failure α).toOption = none := by
  rw [wrongType, Except.toOption_bind]
  cases found text with
  | error failure => rfl
  | ok other => rfl

section Naturals

/-- What does not begin like a number is no natural number. -/
theorem natural_refuses {first : Char} {kind : Kind} (begins : Kind.ofInitial first = some kind)
    (other : kind ≠ .number) (limit : Nat) (expected : String) (gap : Gap) (rest : List Char) :
    (natural limit expected (gap.text ++ first :: rest)).toOption = none := by
  have figureless : startsNumber (first :: rest) = false := by
    refine Bool.eq_false_iff.mpr fun starts => ?_
    simp only [startsNumber, Bool.or_eq_true, decide_eq_true_eq] at starts
    rcases starts with rfl | isDigit
    · cases begins
      exact other rfl
    · rw [Kind.ofInitial_digit isDigit] at begins
      cases begins
      exact other rfl
  rw [natural, gap.skip, skipBlanks_cons (Kind.solid begins)]
  simp only [figureless]
  exact toOption_wrongType expected _

/-- A character that begins a number is no blank. -/
theorem isBlank_of_startsNumber {first : Char} {rest : List Char}
    (starts : startsNumber (first :: rest) = true) : isBlank first = false := by
  simp only [startsNumber, Bool.or_eq_true, decide_eq_true_eq] at starts
  rcases starts with rfl | isDigit
  · decide
  · exact isBlank_of_isDigit isDigit

/-- An integer in range is read as natural. -/
theorem natural_integer {text rest : List Char} {value : Nat}
    (starts : startsNumber text = true) (read : readNumber text = .ok (.integer value, rest))
    (limit : Nat) (expected : String) (gap : Gap) :
    (natural limit expected (gap.text ++ text)).toOption =
      if value ≤ limit then some (value, rest) else none := by
  cases text with
  | nil => cases starts
  | cons first others =>
      rw [natural, gap.skip, skipBlanks_cons (isBlank_of_startsNumber starts)]
      simp only [starts, if_true, read, bind, Except.bind]
      by_cases within : value ≤ limit
      · have inside : (0 : Int) ≤ value ∧ (value : Int) ≤ limit :=
          ⟨Int.natCast_nonneg value, Int.ofNat_le.mpr within⟩
        rw [if_pos inside, if_pos within]
        rfl
      · have outside : ¬((0 : Int) ≤ value ∧ (value : Int) ≤ limit) :=
          fun inside => within (Int.ofNat_le.mp inside.2)
        rw [if_neg outside, if_neg within]
        rfl

/-- What is read as no natural number is refused. -/
theorem natural_unnatural {text : List Char} (starts : startsNumber text = true)
    (unnatural : Unnatural (readNumber text)) (limit : Nat) (expected : String) (gap : Gap) :
    (natural limit expected (gap.text ++ text)).toOption = none := by
  cases text with
  | nil => cases starts
  | cons first others =>
      rw [natural, gap.skip, skipBlanks_cons (isBlank_of_startsNumber starts)]
      simp only [starts, if_true, bind, Except.bind]
      cases taken : readNumber (first :: others) with
      | error failure => rfl
      | ok result =>
          obtain ⟨number, rest⟩ := result
          cases number with
          | real negative value => rfl
          | integer value =>
              have below := unnatural value rest taken
              have outside : ¬(0 ≤ value ∧ value ≤ limit) := fun inside =>
                absurd inside.1 (Int.not_le.mpr below)
              simp only [if_neg outside]
              rfl

theorem natural?_natural (value limit : Nat) :
    Tree.natural? limit (.number (.natural value)) = if value ≤ limit then some value else none :=
  rfl

theorem natural?_other {numeral : Numeral} (other : numeral ≠ .natural numeral.whole)
    (limit : Nat) : Tree.natural? limit (.number numeral) = none := by
  unfold Tree.natural?
  split
  · rename_i same
    cases same
    exact absurd rfl other
  · rfl

theorem understands_natural {limit : Nat} (bounded : limit ≤ largestSignificand)
    (expected : String) : Understands (natural limit expected) (Tree.natural? limit) := by
  intro tree written spelled gap rest delimited
  cases tree with
  | number numeral =>
      cases spelled
      have starts := numeral.startsNumber_text rest
      by_cases form : numeral = .natural numeral.whole
      · by_cases within : numeral.whole ≤ largestSignificand
        · have read := readNumber_render within delimited
          rw [form, Numeral.text_natural] at starts ⊢
          rw [natural?_natural, natural_integer starts read]
          split <;> rfl
        · have outside : ¬numeral.whole ≤ limit := fun inside =>
            within (Nat.le_trans inside bounded)
          have unnatural := Numeral.unnatural_readNumber (fun _ => Nat.lt_of_not_le within)
            delimited.startsWithDigit
          rw [natural_unnatural starts unnatural, form, natural?_natural, if_neg outside]
          rfl
      · have unnatural := Numeral.unnatural_readNumber (fun same => absurd same form)
          delimited.startsWithDigit
        rw [natural_unnatural starts unnatural, natural?_other form]
        rfl
  | _ =>
      obtain ⟨first, others, rfl, kind⟩ := spelled.exists_first
      exact natural_refuses kind nofun limit expected gap (others ++ rest)

/-- Only a natural number in range is one. -/
theorem Tree.natural?_eq_some_iff {limit value : Nat} {tree : Tree} :
    tree.natural? limit = some value ↔ tree = .number (.natural value) ∧ value ≤ limit := by
  constructor
  · intro means
    unfold Tree.natural? at means
    split at means
    · split at means
      · rename_i within
        cases means
        exact ⟨rfl, within⟩
      · cases means
    · cases means
  · rintro ⟨rfl, within⟩
    rw [natural?_natural, if_pos within]

/-- A width takes the numbers up to its largest one. -/
theorem Tree.natural?_map_eq_some_iff {limit : Nat} {make : Nat → α} {number : α → Nat}
    (number_make : ∀ count ≤ limit, number (make count) = count)
    (make_number : ∀ value, number value ≤ limit ∧ make (number value) = value)
    {tree : Tree} {value : α} :
    (tree.natural? limit).map make = some value ↔ tree = .number (.natural (number value)) := by
  rw [Option.map_eq_some_iff]
  constructor
  · rintro ⟨count, means, rfl⟩
    obtain ⟨rfl, within⟩ := Tree.natural?_eq_some_iff.mp means
    rw [number_make count within]
  · rintro rfl
    obtain ⟨within, made⟩ := make_number value
    exact ⟨_, Tree.natural?_eq_some_iff.mpr ⟨rfl, within⟩, made⟩

theorem Tree.uint8?_eq_some_iff {tree : Tree} {value : UInt8} :
    tree.uint8? = some value ↔ tree = .number (.natural value.toNat) :=
  natural?_map_eq_some_iff
    (fun _ within => UInt8.toNat_ofNat_of_lt' (Nat.lt_succ_of_le within))
    (fun value => ⟨Nat.le_of_lt_succ value.toNat_lt, UInt8.ofNat_toNat⟩)

theorem Tree.uint8?_number (value : UInt8) :
    Tree.uint8? (.number (.natural value.toNat)) = some value :=
  Tree.uint8?_eq_some_iff.mpr rfl

theorem Tree.uint16?_eq_some_iff {tree : Tree} {value : UInt16} :
    tree.uint16? = some value ↔ tree = .number (.natural value.toNat) :=
  natural?_map_eq_some_iff
    (fun _ within => UInt16.toNat_ofNat_of_lt' (Nat.lt_succ_of_le within))
    (fun value => ⟨Nat.le_of_lt_succ value.toNat_lt, UInt16.ofNat_toNat⟩)

theorem Tree.uint16?_number (value : UInt16) :
    Tree.uint16? (.number (.natural value.toNat)) = some value :=
  Tree.uint16?_eq_some_iff.mpr rfl

theorem Tree.uint32?_number (value : UInt32) :
    Tree.uint32? (.number (.natural value.toNat)) = some value :=
  (natural?_map_eq_some_iff
    (fun _ within => UInt32.toNat_ofNat_of_lt' (Nat.lt_succ_of_le within))
    (fun value => ⟨Nat.le_of_lt_succ value.toNat_lt, UInt32.ofNat_toNat⟩)).mpr rfl

/-- A number of a width is read as a natural number that it takes. -/
theorem understands_width {limit : Nat} (bounded : limit ≤ largestSignificand) (expected : String)
    (make : Nat → α) :
    Understands (fun text => do
        let (value, rest) ← natural limit expected text
        return (make value, rest))
      fun tree => (tree.natural? limit).map make := by
  intro tree written spelled gap rest delimited
  rw [Except.toOption_bind,
    understands_natural bounded expected tree written spelled gap rest delimited]
  dsimp only
  cases tree.natural? limit <;> rfl

theorem understands_uint8 : Understands uint8 Tree.uint8? :=
  understands_width (by decide) "u8" UInt8.ofNat

theorem understands_uint16 : Understands uint16 Tree.uint16? :=
  understands_width (by decide) "u16" UInt16.ofNat

theorem understands_uint32 : Understands uint32 Tree.uint32? :=
  understands_width (by decide) "u32" UInt32.ofNat

end Naturals

section Scalars

/-- What does not begin like a truth value is none. -/
theorem boolean_refuses {first : Char} {kind : Kind} (begins : Kind.ofInitial first = some kind)
    (other : kind ≠ .boolean) (gap : Gap) (rest : List Char) :
    (boolean (gap.text ++ first :: rest)).toOption = none := by
  rw [boolean, gap.skip, skipBlanks_cons (Kind.solid begins)]
  split
  · rfl
  · rename_i same
    cases same
    cases begins
    exact absurd rfl other
  · rename_i same
    cases same
    cases begins
    exact absurd rfl other
  · exact toOption_wrongType _ _

theorem Tree.boolean?_eq_some_iff {tree : Tree} {value : Bool} :
    tree.boolean? = some value ↔ tree = .boolean value := by
  cases tree with
  | boolean other => simp [Tree.boolean?]
  | _ => exact ⟨nofun, nofun⟩

theorem Tree.text?_eq_some_iff {tree : Tree} {content : String} :
    tree.text? = some content ↔ tree = .text (some content) := by
  cases tree with
  | text other => simp [Tree.text?]
  | _ => exact ⟨nofun, nofun⟩

theorem understands_boolean : Understands boolean Tree.boolean? := by
  intro tree written spelled gap rest delimited
  cases tree with
  | boolean value =>
      cases spelled
      rw [boolean, gap.skip]
      cases value <;> rfl
  | _ =>
      obtain ⟨first, others, rfl, kind⟩ := spelled.exists_first
      exact boolean_refuses kind nofun gap (others ++ rest)

/-- What does not begin with a quote is no text. -/
theorem text_refuses {first : Char} {kind : Kind} (begins : Kind.ofInitial first = some kind)
    (other : kind ≠ .text) (expected : String) (gap : Gap) (rest : List Char) :
    (text expected (gap.text ++ first :: rest)).toOption = none := by
  rw [text, gap.skip, skipBlanks_cons (Kind.solid begins)]
  split
  · rfl
  · rename_i same
    cases same
    cases begins
    exact absurd rfl other
  · exact toOption_wrongType _ _

theorem understands_text (expected : String) : Understands (text expected) Tree.text? := by
  intro tree written spelled gap rest delimited
  cases tree with
  | text content =>
      cases spelled with
      | text pieces =>
          rw [Piece.quoted_append, text, gap.skip, skipBlanks_cons (by decide)]
          exact Piece.readText_pieces pieces rest
  | _ =>
      obtain ⟨first, others, rfl, kind⟩ := spelled.exists_first
      exact text_refuses kind nofun expected gap (others ++ rest)

theorem Tree.optional?_of_ne {tree : Tree} (meaning : Tree → Option α) (other : tree ≠ .null) :
    tree.optional? meaning = (meaning tree).map some := by
  cases tree with
  | null => exact absurd rfl other
  | _ => rfl

/-- Only null begins like null. -/
theorem Kind.eq_null {tree : Tree} (begins : ofInitial 'n' = some tree.kind) : tree = .null := by
  cases tree with
  | null => rfl
  | _ => cases begins

/-- What may be null is null or what it is otherwise. -/
theorem Understands.optional {read : Reader α} {meaning : Tree → Option α}
    (understands : Understands read meaning) :
    Understands (optional read) (Tree.optional? meaning) := by
  intro tree written spelled gap rest delimited
  by_cases isNull : tree = .null
  · subst isNull
    cases spelled
    rw [Json.optional, gap.skip]
    rfl
  · have value := understands tree written spelled .none rest delimited
    obtain ⟨first, others, rfl, kind⟩ := spelled.exists_first
    rw [Gap.text_none, List.nil_append, List.cons_append] at value
    rw [Json.optional, gap.skip, List.cons_append, skipBlanks_cons (Kind.solid kind)]
    split
    · rename_i same
      cases same
      exact absurd (Kind.eq_null kind) isNull
    · rw [Except.toOption_bind, value, Tree.optional?_of_ne meaning isNull]
      cases meaning tree <;> rfl

end Scalars

end Json

end FrameRouter
