import FrameRouter.Proofs.Text.Digits

/-!
# Numerals

A numeral is at most one plus sign with one digit or more behind it.  Reading
accepts the numerals of the numbers up to its limit and nothing else; neither
the case of a letter nor zeros in front of the number count.
-/

namespace FrameRouter.Digits

variable {base limit : Nat}

/-- The character stands for the digit: a decimal one, or a letter of either case. -/
structure Shows (base : Nat) (character : Char) (digit : Nat) : Prop where
  below : digit < base
  shape : character = digit.digitChar ∨ character = digit.digitChar.toUpper

/-- The text is a numeral of the number. -/
inductive Numeral (base : Nat) : List Char → Nat → Prop where
  | unsigned {text : List Char} {digits : List Nat} (nonempty : text ≠ [])
      (shown : List.Forall₂ (Shows base) text digits) :
      Numeral base text (Nat.ofDigits base digits.reverse)
  | signed {text : List Char} {digits : List Nat} (nonempty : text ≠ [])
      (shown : List.Forall₂ (Shows base) text digits) :
      Numeral base ('+' :: text) (Nat.ofDigits base digits.reverse)

theorem value?_toUpper_digitChar : ∀ base ≤ 16, ∀ digit < base,
    value? base (Nat.digitChar digit).toUpper = some digit := by
  decide

/-- Where the characters of the digits stand: the decimal ones, then letters of either case. -/
theorem toNat_digitChar : ∀ digit < 16,
    (digit < 10 → digit.digitChar.toNat = digit + 48 ∧
        digit.digitChar.toUpper.toNat = digit + 48) ∧
      (10 ≤ digit → digit.digitChar.toNat = digit + 87 ∧
        digit.digitChar.toUpper.toNat = digit + 55) := by
  decide

/-- A character has the value of the digit it stands for. -/
theorem value?_eq_some_iff (small : base ≤ 16) {character : Char} {digit : Nat} :
    value? base character = some digit ↔ Shows base character digit := by
  constructor
  · -- The three ranges of characters are told apart by their numbers alone.
    intro value
    obtain ⟨found, below⟩ := Option.filter_eq_some_iff.mp value
    have below : digit < base := of_decide_eq_true below
    obtain ⟨decimal, letter⟩ := toNat_digitChar digit (by omega)
    refine ⟨below, ?_⟩
    rw [← Char.toNat_inj, ← Char.toNat_inj]
    split at found
    · cases found
      omega
    · split at found
      · cases found
        omega
      · split at found
        · cases found
          omega
        · cases found
  · rintro ⟨below, rfl | rfl⟩
    · exact value?_digitChar base small digit below
    · exact value?_toUpper_digitChar base small digit below

/-- Digits behind a number do not make it smaller. -/
theorem le_foldl (positive : 0 < base) (digits : List Nat) (value : Nat) :
    value ≤ digits.foldl (fun value digit => value * base + digit) value := by
  induction digits generalizing value with
  | nil => exact Nat.le_refl value
  | cons digit digits ih =>
      calc value ≤ value * base := Nat.le_mul_of_pos_right value positive
        _ ≤ value * base + digit := Nat.le_add_right _ _
        _ ≤ _ := ih _

/-- Digits are read one by one, and the number they make must be in range. -/
theorem readFrom_eq_ok_iff (small : base ≤ 16) {text : List Char} {start value : Nat}
    (within : start ≤ limit) :
    readFrom base limit start text = .ok value ↔
      ∃ digits, List.Forall₂ (Shows base) text digits ∧
        value = digits.foldl (fun value digit => value * base + digit) start ∧
        value ≤ limit := by
  induction text generalizing start with
  | nil =>
      constructor
      · intro read
        cases read
        exact ⟨[], .nil, rfl, within⟩
      · rintro ⟨digits, shown, rfl, _⟩
        cases shown
        rfl
  | cons character text ih =>
      rw [readFrom]
      constructor
      · intro read
        split at read
        · cases read
        · rename_i digit found
          split at read
          · rename_i inside
            obtain ⟨digits, shown, total, bounded⟩ := (ih inside).mp read
            exact ⟨digit :: digits, .cons ((value?_eq_some_iff small).mp found) shown, total,
              bounded⟩
          · cases read
      · rintro ⟨digits, shown, total, bounded⟩
        cases shown with
        | @cons _ digit _ digits first rest =>
            have positive : 0 < base := Nat.zero_lt_of_lt first.below
            -- A number beyond the limit stays beyond it, whatever digits follow.
            have inside : start * base + digit ≤ limit :=
              calc start * base + digit ≤ value := total ▸ le_foldl positive digits _
                _ ≤ limit := bounded
            rw [(value?_eq_some_iff small).mpr first]
            simp only [if_pos inside]
            exact (ih inside).mpr ⟨digits, rest, total, bounded⟩

/-- The number that digits make, the most significant one first. -/
theorem foldl_eq_ofDigits (base : Nat) (digits : List Nat) :
    digits.foldl (fun value digit => value * base + digit) 0 =
      Nat.ofDigits base digits.reverse := by
  rw [Nat.ofDigits_eq_foldr, List.foldr_reverse]
  simp only [Nat.cast_id, Nat.add_comm, Nat.mul_comm]

theorem readFrom_zero_eq_ok_iff (small : base ≤ 16) {text : List Char} {value : Nat} :
    readFrom base limit 0 text = .ok value ↔
      ∃ digits, List.Forall₂ (Shows base) text digits ∧
        value = Nat.ofDigits base digits.reverse ∧ value ≤ limit := by
  simp only [readFrom_eq_ok_iff small (Nat.zero_le limit), foldl_eq_ofDigits]

/-- What is read are the numerals of the numbers up to the limit. -/
theorem read_eq_ok_iff (small : base ≤ 16) {text : List Char} {value : Nat} :
    read base limit text = .ok value ↔ Numeral base text value ∧ value ≤ limit := by
  constructor
  · intro isRead
    unfold read at isRead
    split at isRead
    · cases isRead
    · cases isRead
    · rename_i rest notAlone
      obtain ⟨digits, shown, rfl, bounded⟩ := (readFrom_zero_eq_ok_iff small).mp isRead
      exact ⟨.signed notAlone shown, bounded⟩
    · rename_i nonempty _ _
      obtain ⟨digits, shown, rfl, bounded⟩ := (readFrom_zero_eq_ok_iff small).mp isRead
      exact ⟨.unsigned nonempty shown, bounded⟩
  · rintro ⟨numeral, bounded⟩
    cases numeral with
    | unsigned nonempty shown =>
        exact read_of_readFrom nonempty
          ((readFrom_zero_eq_ok_iff small).mpr ⟨_, shown, rfl, bounded⟩)
    | @signed text digits nonempty shown =>
        have digitsRead := (readFrom_zero_eq_ok_iff small).mpr ⟨digits, shown, rfl, bounded⟩
        unfold read
        split
        · rename_i same
          cases same
        · rename_i same
          cases same
          exact absurd rfl nonempty
        · rename_i same
          cases same
          exact digitsRead
        · rename_i others
          exact absurd rfl (others text)

/-- What holds of both forms of each digit holds of the characters that show some. -/
theorem forall_mem_of_shown {property : Char → Prop}
    (digits : ∀ digit < base, property digit.digitChar ∧ property digit.digitChar.toUpper)
    {text : List Char} {values : List Nat} (shown : List.Forall₂ (Shows base) text values) :
    ∀ character ∈ text, property character := by
  induction shown with
  | nil => exact fun _ => nofun
  | @cons character digit _ _ first _ ih =>
      refine List.forall_mem_cons.mpr ⟨?_, ih⟩
      rcases first.shape with rfl | rfl
      · exact (digits digit first.below).1
      · exact (digits digit first.below).2

/-- The characters of a numeral are plus signs and digits. -/
theorem Numeral.forall_mem {text : List Char} {value : Nat} (numeral : Numeral base text value)
    {property : Char → Prop} (sign : property '+')
    (digits : ∀ digit < base, property digit.digitChar ∧ property digit.digitChar.toUpper) :
    ∀ character ∈ text, property character := by
  cases numeral with
  | unsigned _ shown => exact forall_mem_of_shown digits shown
  | signed _ shown => exact List.forall_mem_cons.mpr ⟨sign, forall_mem_of_shown digits shown⟩

/-- The digits of a number with zeros in front are a numeral of it. -/
theorem numeral_zeros_render (several : 1 < base) (small : base ≤ 16) (zeros value : Nat) :
    Numeral base (List.replicate zeros '0' ++ render base value) value := by
  have digits : readFrom base value 0 (List.replicate zeros '0' ++ render base value) =
      .ok value := by
    rw [readFrom_zeros (by omega) small]
    exact readFrom_render several small (Nat.le_refl value)
  have nonempty : List.replicate zeros '0' ++ render base value ≠ [] :=
    List.append_ne_nil_of_right_ne_nil _ Nat.toDigits_ne_nil
  exact ((read_eq_ok_iff small).mp (read_of_readFrom nonempty digits)).1

/-- Only capital letters have another lower-case form. -/
theorem toLower_cases (character : Char) :
    (65 ≤ character.toNat ∧ character.toNat ≤ 90 ∧
        character.toLower.toNat = character.toNat + 32) ∨
      character.toLower = character := by
  by_cases capital : 65 ≤ character.toNat ∧ character.toNat ≤ 90
  · have range : character.val ≥ 'A'.val ∧ character.val ≤ 'Z'.val := capital
    have bounded : character.toNat + 32 < 2 ^ 32 := by omega
    have lower : character.toLower = _ := dif_pos range
    refine .inl ⟨capital.1, capital.2, ?_⟩
    rw [lower]
    exact (UInt32.toNat_add character.val 32).trans (Nat.mod_eq_of_lt bounded)
  · exact .inr (dif_neg capital)

/-- A digit is shown by its letter in either case. -/
theorem Shows.of_toLower (small : base ≤ 16) {character : Char} {digit : Nat}
    (shown : Shows base character.toLower digit) : Shows base character digit := by
  obtain ⟨below, shape⟩ := shown
  obtain ⟨decimal, letter⟩ := toNat_digitChar digit (by omega)
  refine ⟨below, ?_⟩
  rcases toLower_cases character with ⟨least, most, lowered⟩ | same
  · rw [← Char.toNat_inj, ← Char.toNat_inj] at shape ⊢
    omega
  · rwa [same] at shape

theorem forall₂_of_toLower (small : base ≤ 16) {text : List Char} {digits : List Nat}
    (shown : List.Forall₂ (Shows base) (text.map Char.toLower) digits) :
    List.Forall₂ (Shows base) text digits :=
  (List.forall₂_map_left_iff.mp shown).imp fun _ _ => Shows.of_toLower small

/-- The case of a letter does not count. -/
theorem Numeral.of_map_toLower (small : base ≤ 16) {text : List Char} {value : Nat}
    (lowered : Numeral base (text.map Char.toLower) value) : Numeral base text value := by
  generalize lower : text.map Char.toLower = low at lowered
  cases lowered with
  | unsigned nonempty shown =>
      subst lower
      exact .unsigned (List.map_eq_nil_iff.not.mp nonempty) (forall₂_of_toLower small shown)
  | signed nonempty shown =>
      -- No capital letter turns into a plus sign, which was one before already.
      obtain ⟨sign, digits, rfl, plus, rfl⟩ := List.map_eq_cons_iff.mp lower
      have same : sign = '+' := by
        rcases toLower_cases sign with ⟨least, _, lowered⟩ | same
        · have code : sign.toLower.toNat = 43 := congrArg Char.toNat plus
          omega
        · exact same.symm.trans plus
      subst same
      exact .signed (List.map_eq_nil_iff.not.mp nonempty) (forall₂_of_toLower small shown)

end FrameRouter.Digits
