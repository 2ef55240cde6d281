import FrameRouter.Config.RegisterWrite
import FrameRouter.Proofs.Text.Numerals
import FrameRouter.Proofs.Text.Trimming

/-!
# Register writes and all their texts

A text is a register write if there is an operand on either side of its first
equals sign: a decimal numeral, or a hexadecimal one behind `0x` or `0X`, with
blanks around it.  The operand on the left is the address and that on the
right the value.
-/

namespace FrameRouter.RegisterWrite

open Digits

/-- The text is a numeral of the number in the base that its beginning names. -/
inductive Literal : List Char → Nat → Prop where
  | decimal {text : List Char} {number : Nat} (numeral : Numeral 10 text number) :
      Literal text number
  | hexadecimal {mark : Char} {text : List Char} {number : Nat} (marked : mark = 'x' ∨ mark = 'X')
      (numeral : Numeral 16 text number) : Literal ('0' :: mark :: text) number

/-- The text is a literal of the number between blanks. -/
inductive Operand (text : List Char) (number : Nat) : Prop where
  | intro {literal : List Char} (around : Blank.Around literal text)
      (inner : Literal literal number)

/-- The text has the operand of the address and that of the value around its first equals sign. -/
inductive Assignment : List Char → Nat → Nat → Prop where
  | intro {left right : List Char} {address value : Nat} (first : '=' ∉ left)
      (addressed : Operand left address) (valued : Operand right value) :
      Assignment (left ++ '=' :: right) address value

/-- The text is what a number is commonly written as, with any number of zeros in front. -/
inductive Spelling (number : Nat) : List Char → Prop where
  | decimal (zeros : Nat) :
      Spelling number (List.replicate zeros '0' ++ Nat.toDigits 10 number)
  | hexadecimal {mark : Char} (marked : mark = 'x' ∨ mark = 'X') (zeros : Nat)
      {digits : List Char} (lowered : digits.map Char.toLower = Nat.toDigits 16 number) :
      Spelling number ('0' :: mark :: (List.replicate zeros '0' ++ digits))

section Literals

variable {text : List Char} {number : Nat}

/-- No letter that marks the base is part of a decimal numeral. -/
theorem unsigned_of_numeral (numeral : Numeral 10 text number) :
    unsigned text = Digits.read 10 0xffffffff text := by
  have unmarked : ∀ character ∈ text, character ≠ 'x' ∧ character ≠ 'X' :=
    numeral.forall_mem (by decide) (by decide)
  unfold unsigned
  split
  · exact absurd rfl (unmarked 'x' (by simp)).1
  · exact absurd rfl (unmarked 'X' (by simp)).2
  · rfl

theorem unsigned_of_mark {mark : Char} (marked : mark = 'x' ∨ mark = 'X') :
    unsigned ('0' :: mark :: text) = Digits.read 16 0xffffffff text := by
  rcases marked with rfl | rfl <;> rfl

/-- What is read in either base are the literals of 32-bit numbers. -/
theorem unsigned_eq_ok_iff :
    unsigned text = .ok number ↔ Literal text number ∧ number ≤ 0xffffffff := by
  have ten : 10 ≤ 16 := by decide
  have sixteen : 16 ≤ 16 := Nat.le_refl 16
  constructor
  · intro read
    unfold unsigned at read
    split at read
    · obtain ⟨numeral, within⟩ := (read_eq_ok_iff sixteen).mp read
      exact ⟨.hexadecimal (.inl rfl) numeral, within⟩
    · obtain ⟨numeral, within⟩ := (read_eq_ok_iff sixteen).mp read
      exact ⟨.hexadecimal (.inr rfl) numeral, within⟩
    · obtain ⟨numeral, within⟩ := (read_eq_ok_iff ten).mp read
      exact ⟨.decimal numeral, within⟩
  · rintro ⟨literal, within⟩
    cases literal with
    | decimal numeral =>
        rw [unsigned_of_numeral numeral]
        exact (read_eq_ok_iff ten).mpr ⟨numeral, within⟩
    | hexadecimal marked numeral =>
        rw [unsigned_of_mark marked]
        exact (read_eq_ok_iff sixteen).mpr ⟨numeral, within⟩

/-- The characters of a literal are neither blanks nor equals signs. -/
theorem Literal.forall_mem (literal : Literal text number) :
    ∀ character ∈ text, Blank.contains character = false ∧ character ≠ '=' := by
  cases literal with
  | decimal numeral => exact numeral.forall_mem (by decide) (by decide)
  | hexadecimal marked numeral =>
      refine List.forall_mem_cons.mpr ⟨by decide, List.forall_mem_cons.mpr ⟨?_, ?_⟩⟩
      · rcases marked with rfl | rfl <;> decide
      · exact numeral.forall_mem (by decide) (by decide)

theorem Literal.bare (literal : Literal text number) : Blank.Bare text :=
  .of_forall fun character member => (literal.forall_mem character member).1

/-- What is commonly written for a number is a literal of it. -/
theorem Spelling.literal (spelling : Spelling number text) : Literal text number := by
  cases spelling with
  | decimal zeros => exact .decimal (numeral_zeros_render (by decide) (by decide) zeros number)
  | @hexadecimal mark marked zeros digits lowered =>
      -- Zeros are no letters, so the whole text can be lowered with its digits.
      have lower : (List.replicate zeros '0' ++ digits).map Char.toLower =
          List.replicate zeros '0' ++ render 16 number := by
        rw [List.map_append, List.map_replicate, lowered]
        rfl
      have numeral : Numeral 16 ((List.replicate zeros '0' ++ digits).map Char.toLower) number := by
        rw [lower]
        exact numeral_zeros_render (by decide) (by decide) zeros number
      exact .hexadecimal marked (numeral.of_map_toLower (by decide))

end Literals

section Operands

variable {text : List Char} {value : Nat}

/-- An operand is what becomes a literal by trimming. -/
theorem operand_iff : Operand text value ↔ Literal (Blank.trim text) value := by
  constructor
  · rintro ⟨around, literal⟩
    rwa [Blank.trim_eq_iff.mpr ⟨around, literal.bare⟩]
  · intro literal
    exact ⟨(Blank.trim_eq_iff.mp rfl).1, literal⟩

/-- What is read between blanks are the operands of 32-bit numbers. -/
theorem number_eq_ok_iff :
    number text = .ok value ↔ Operand text value ∧ value ≤ 0xffffffff := by
  rw [operand_iff, ← unsigned_eq_ok_iff, number]
  cases unsigned (Blank.trim text) with
  | error fault => exact ⟨nofun, nofun⟩
  | ok read =>
      constructor
      · intro same
        cases same
        rfl
      · intro same
        cases same
        rfl

/-- There is no equals sign in an operand. -/
theorem Operand.not_mem (operand : Operand text value) : '=' ∉ text := by
  obtain ⟨⟨front, back, before, behind⟩, literal⟩ := operand
  have other {blanks : List Char} (all : ∀ character ∈ blanks, Blank.contains character = true) :
      '=' ∉ blanks := by
    intro member
    cases all '=' member
  simp only [List.mem_append, not_or]
  exact ⟨⟨other before, fun member => (literal.forall_mem '=' member).2 rfl⟩, other behind⟩

end Operands

section Assignments

variable {text : String} {left right : List Char} {write : RegisterWrite}

theorem parse_of_first? (separated : Split.first? '=' text.toList = some (left, right)) :
    parse text = (number left).bind fun address =>
      if 0xff < address then .error (.addressOutOfRange address)
      else (number right).map fun value => ⟨UInt8.ofNat address, UInt32.ofNat value⟩ := by
  rw [parse, separated]
  rfl

/-- Two numbers that are in range are those of one write. -/
theorem parse_eq_ok_iff_of_first? (separated : Split.first? '=' text.toList = some (left, right)) :
    parse text = .ok write ↔
      number left = .ok write.address.toNat ∧ number right = .ok write.value.toNat := by
  rw [parse_of_first? separated]
  constructor
  · intro read
    cases addressed : number left with
    | error fault =>
        rw [addressed] at read
        cases read
    | ok address =>
        rw [addressed] at read
        change (if 0xff < address then _ else _) = _ at read
        split at read
        · cases read
        · rename_i within
          cases valued : number right with
          | error fault =>
              rw [valued] at read
              cases read
          | ok value =>
              rw [valued] at read
              cases read
              have bounded := (number_eq_ok_iff.mp valued).2
              rw [UInt8.toNat_ofNat_of_lt' (by change _ < 256; omega),
                UInt32.toNat_ofNat_of_lt' (by change _ < 4294967296; omega)]
              exact ⟨rfl, rfl⟩
  · rintro ⟨addressed, valued⟩
    have within : ¬ 0xff < write.address.toNat := by
      have bounded := write.address.toNat_lt
      omega
    rw [addressed, valued]
    change (if 0xff < write.address.toNat then _ else _) = _
    rw [if_neg within]
    change Except.ok (RegisterWrite.mk _ _) = _
    rw [UInt8.ofNat_toNat, UInt32.ofNat_toNat]

/-- A write is read from the operands around the first equals sign. -/
theorem parse_eq_ok_iff :
    parse text = .ok write ↔
      Assignment text.toList write.address.toNat write.value.toNat := by
  constructor
  · intro read
    cases separated : Split.first? '=' text.toList with
    | none =>
        rw [parse, separated] at read
        cases read
    | some sides =>
        obtain ⟨addressed, valued⟩ := (parse_eq_ok_iff_of_first? separated).mp read
        obtain ⟨whole, first⟩ := Split.first?_eq_some_iff.mp separated
        rw [whole]
        exact .intro first (number_eq_ok_iff.mp addressed).1 (number_eq_ok_iff.mp valued).1
  · intro assignment
    generalize whole : text.toList = characters at assignment
    cases assignment with
    | intro first addressed valued =>
        have separated := Split.first?_eq_some_iff.mpr ⟨whole, first⟩
        refine (parse_eq_ok_iff_of_first? separated).mpr ⟨?_, ?_⟩
        · refine number_eq_ok_iff.mpr ⟨addressed, ?_⟩
          have bounded := write.address.toNat_lt
          omega
        · exact number_eq_ok_iff.mpr ⟨valued, Nat.le_of_lt_succ write.value.toNat_lt⟩

/-- A text can be read if its operands are in range. -/
theorem exists_parse_iff :
    (∃ write, parse text = .ok write) ↔
      ∃ address ≤ 0xff, ∃ value ≤ 0xffffffff, Assignment text.toList address value := by
  constructor
  · rintro ⟨write, read⟩
    exact ⟨write.address.toNat, Nat.le_of_lt_succ write.address.toNat_lt, write.value.toNat,
      Nat.le_of_lt_succ write.value.toNat_lt, parse_eq_ok_iff.mp read⟩
  · rintro ⟨address, small, value, within, assignment⟩
    have addressed : (UInt8.ofNat address).toNat = address :=
      UInt8.toNat_ofNat_of_lt' (Nat.lt_succ_of_le small)
    have valued : (UInt32.ofNat value).toNat = value :=
      UInt32.toNat_ofNat_of_lt' (Nat.lt_succ_of_le within)
    refine ⟨⟨.ofNat address, .ofNat value⟩, parse_eq_ok_iff.mpr ?_⟩
    simpa only [addressed, valued] using assignment

end Assignments

/--
A text is read exactly if it has two operands in range around its first equals
sign, as their numbers.  What is commonly written for an address and a value is
read as the two.
-/
theorem parse_exact :
    (∀ (text : String) (write : RegisterWrite), parse text = .ok write ↔
      Assignment text.toList write.address.toNat write.value.toNat) ∧
      (∀ text : String, (∃ write, parse text = .ok write) ↔
        ∃ address ≤ 2 ^ 8 - 1, ∃ value ≤ 2 ^ 32 - 1, Assignment text.toList address value) ∧
      ∀ (address : UInt8) (value : UInt32) (addressText valueText left right : List Char),
        Spelling address.toNat addressText → Spelling value.toNat valueText →
        Blank.Around addressText left → Blank.Around valueText right →
        parse (String.ofList (left ++ '=' :: right)) = .ok ⟨address, value⟩ := by
  refine ⟨fun _ _ => parse_eq_ok_iff, fun _ => exists_parse_iff, ?_⟩
  intro address value addressText valueText left right addressed valued before behind
  have first : Operand left address.toNat := ⟨before, addressed.literal⟩
  have second : Operand right value.toNat := ⟨behind, valued.literal⟩
  refine parse_eq_ok_iff.mpr ?_
  rw [String.toList_ofList]
  exact .intro first.not_mem first second

/-- Zeros in front, letters of both cases, blanks and the last address of all. -/
theorem parse_exact_padded : parse "\t0X00fF = 007" = .ok ⟨0xff, 7⟩ := by
  have address : Spelling (0xff : UInt8).toNat ['0', 'X', '0', '0', 'f', 'F'] :=
    .hexadecimal (.inr rfl) 2 (by decide)
  have value : Spelling (7 : UInt32).toNat ['0', '0', '7'] := .decimal 2
  have left : Blank.Around ['0', 'X', '0', '0', 'f', 'F']
      ['\t', '0', 'X', '0', '0', 'f', 'F', ' '] :=
    .intro ['\t'] [' '] (List.forall_mem_singleton.mpr rfl) (List.forall_mem_singleton.mpr rfl)
  have right : Blank.Around ['0', '0', '7'] [' ', '0', '0', '7'] :=
    .intro [' '] [] (List.forall_mem_singleton.mpr rfl) (fun _ => nofun)
  exact parse_exact.2.2 0xff 7 _ _ _ _ address value left right

/-- A sign stands behind the mark of the base, and only the first equals sign separates. -/
example : parse "0x+5=+3" = .ok ⟨5, 3⟩ ∧
    parse "+0x5=3" = .error (.notNumber "+0x5" .invalidDigit) ∧
    parse "5=3=1" = .error (.notNumber "3=1" .invalidDigit) ∧
    parse "0x100=1" = .error (.addressOutOfRange 0x100) := by decide +kernel

end FrameRouter.RegisterWrite
