import FrameRouter.Text.Digits
import FrameRouter.Text.Split
import Mathlib.Data.List.Forall2
import Mathlib.Data.Nat.Digits.Defs

/-!
# Digits and the numbers they stand for

The digits of a number are read as the number.  The other way around a decimal
text without a leading zero is the one that is written for its number.
-/

namespace FrameRouter

section Lists

variable {α β : Type} {read : β → Option α} {write : α → β} {texts : List β} {values : List α}

/-- A list is read if each of its elements is. -/
theorem mapM_eq_some_iff : texts.mapM read = some values ↔
    List.Forall₂ (fun value text => read text = some value) values texts := by
  induction texts generalizing values with
  | nil =>
      constructor
      · intro none
        cases none
        exact .nil
      · intro none
        cases none
        rfl
  | cons text texts ih =>
      rw [List.mapM_cons]
      constructor
      · intro all
        obtain ⟨value, first, further⟩ := Option.bind_eq_some_iff.mp all
        obtain ⟨others, rest, same⟩ := Option.bind_eq_some_iff.mp further
        cases same
        exact .cons first (ih.mp rest)
      · intro all
        cases all with
        | cons first rest => simp [first, ih.mpr rest]

/-- What is read back one by one is read back as a list. -/
theorem mapM_map_of_inverse (inverse : ∀ value, read (write value) = some value)
    (values : List α) : (values.map write).mapM read = some values := by
  rw [mapM_eq_some_iff, List.forall₂_map_right_iff, List.forall₂_same]
  exact fun value _ => inverse value

/-- What was read one by one was written one by one. -/
theorem eq_map_of_mapM (written : ∀ {text value}, read text = some value → text = write value)
    (all : texts.mapM read = some values) : texts = values.map write := by
  have each : List.Forall₂ (fun text value => text = write value) texts values :=
    (mapM_eq_some_iff.mp all).flip.imp fun _ _ => written
  rwa [← List.forall₂_map_right_iff, List.forall₂_eq_eq_eq] at each

end Lists

namespace Digits

variable {base limit : Nat}

theorem value?_digitChar : ∀ base ≤ 16, ∀ digit < base,
    value? base (Nat.digitChar digit) = some digit := by
  decide

theorem readFrom_append (value : Nat) (first second : List Char) :
    readFrom base limit value (first ++ second) =
      (readFrom base limit value first).bind fun value => readFrom base limit value second := by
  induction first generalizing value with
  | nil => rfl
  | cons character first ih =>
      rw [List.cons_append, readFrom, readFrom]
      cases value? base character with
      | none => rfl
      | some digit =>
          by_cases within : value * base + digit ≤ limit
          · simp only [if_pos within]
            exact ih _
          · simp only [if_neg within]
            rfl

/-- A digit is appended to what was read. -/
theorem readFrom_digit (small : base ≤ 16) (value : Nat) {digit : Nat} (below : digit < base)
    (within : value * base + digit ≤ limit) :
    readFrom base limit value [Nat.digitChar digit] = .ok (value * base + digit) := by
  simp only [readFrom, value?_digitChar base small digit below, if_pos within]

theorem readFrom_render (several : 1 < base) (small : base ≤ 16) {value : Nat}
    (within : value ≤ limit) : readFrom base limit 0 (render base value) = .ok value := by
  unfold render
  induction value using Nat.strongRecOn with
  | ind value ih =>
      rw [Nat.toDigits_eq_if several]
      split
      · rename_i below
        have read := readFrom_digit small 0 below (by omega : 0 * base + value ≤ limit)
        rwa [Nat.zero_mul, Nat.zero_add] at read
      · rename_i large
        have shorter : value / base < value := Nat.div_lt_self (by omega) several
        have front := ih (value / base) shorter (by omega)
        have split : value / base * base + value % base = value := Nat.div_add_mod' value base
        have last := readFrom_digit small (value / base)
          (Nat.mod_lt value (by omega)) (by rwa [split] : _ ≤ limit)
        rw [readFrom_append, front]
        exact last.trans (congrArg Except.ok split)

/-- Zeros in front do not count. -/
theorem readFrom_zeros (positive : 0 < base) (small : base ≤ 16) (count : Nat)
    (text : List Char) :
    readFrom base limit 0 (List.replicate count '0' ++ text) = readFrom base limit 0 text := by
  induction count with
  | zero => rfl
  | succ count ih =>
      have zero : value? base '0' = some 0 := value?_digitChar base small 0 positive
      simp only [List.replicate_succ, List.cons_append, readFrom, zero, Nat.zero_mul,
        Nat.add_zero, if_pos (Nat.zero_le limit)]
      exact ih

/-- What is read as digits is a numeral, if there is any. -/
theorem read_of_readFrom {text : List Char} (nonempty : text ≠ []) {value : Nat}
    (digits : readFrom base limit 0 text = .ok value) : read base limit text = .ok value := by
  unfold read
  split
  · exact absurd rfl nonempty
  · cases digits
  · cases digits
  · exact digits

/-- The digits of a number are read as the number, with zeros in front or without. -/
theorem read_renderPadded (several : 1 < base) (small : base ≤ 16) (width : Nat) {value : Nat}
    (within : value ≤ limit) : read base limit (renderPadded base width value) = .ok value := by
  refine read_of_readFrom ?_ ?_
  · exact List.append_ne_nil_of_right_ne_nil _ Nat.toDigits_ne_nil
  · rw [renderPadded, readFrom_zeros (by omega) small]
    exact readFrom_render several small within

theorem read_render (several : 1 < base) (small : base ≤ 16) {value : Nat}
    (within : value ≤ limit) : read base limit (render base value) = .ok value :=
  read_of_readFrom Nat.toDigits_ne_nil (readFrom_render several small within)

/-- What is read as digits consists of digits. -/
theorem not_mem_of_readFrom {text : List Char} {value result : Nat} {character : Char}
    (digits : readFrom base limit value text = .ok result)
    (other : value? base character = none) : character ∉ text := by
  induction text generalizing value with
  | nil => exact List.not_mem_nil
  | cons first text ih =>
      rw [readFrom] at digits
      split at digits
      · cases digits
      · rename_i digit found
        split at digits
        · refine List.not_mem_cons_of_ne_of_not_mem ?_ (ih digits)
          rintro rfl
          rw [other] at found
          cases found
        · cases digits

theorem not_mem_renderPadded (several : 1 < base) (small : base ≤ 16) (width value : Nat)
    {character : Char} (other : value? base character = none) :
    character ∉ renderPadded base width value := by
  have digits : readFrom base value 0 (renderPadded base width value) = .ok value := by
    rw [renderPadded, readFrom_zeros (by omega) small]
    exact readFrom_render several small (Nat.le_refl value)
  exact not_mem_of_readFrom digits other

theorem not_mem_render (several : 1 < base) (small : base ≤ 16) (value : Nat)
    {character : Char} (other : value? base character = none) : character ∉ render base value :=
  not_mem_of_readFrom (readFrom_render several small (Nat.le_refl value)) other

/-- A number that is read from digits is in range. -/
theorem le_of_readFrom {text : List Char} {value result : Nat} (within : value ≤ limit)
    (digits : readFrom base limit value text = .ok result) : result ≤ limit := by
  induction text generalizing value with
  | nil =>
      cases digits
      exact within
  | cons first text ih =>
      rw [readFrom] at digits
      split at digits
      · cases digits
      · split at digits
        · rename_i inside
          exact ih inside digits
        · cases digits

theorem le_of_read {text : List Char} {value : Nat} (digits : read base limit text = .ok value) :
    value ≤ limit := by
  unfold read at digits
  split at digits
  · cases digits
  · cases digits
  · exact le_of_readFrom (Nat.zero_le limit) digits
  · exact le_of_readFrom (Nat.zero_le limit) digits

section Decimal

/-- A decimal digit is the character of its value. -/
theorem digitChar_of_value? {character : Char} {digit : Nat}
    (value : value? 10 character = some digit) : digit < 10 ∧ Nat.digitChar digit = character := by
  obtain ⟨found, below⟩ := Option.filter_eq_some_iff.mp value
  have below : digit < 10 := of_decide_eq_true below
  refine ⟨below, Char.toNat_inj.mp ?_⟩
  rw [Nat.toNat_digitChar_of_lt_ten below]
  split at found
  · cases found
    omega
  · split at found
    · cases found
      omega
    · split at found
      · cases found
        omega
      · cases found

/-- The digits of a number go on with those read behind it. -/
theorem render_of_readFrom {text : List Char} {value result : Nat} (positive : 0 < value)
    (digits : readFrom 10 limit value text = .ok result) :
    render 10 result = render 10 value ++ text := by
  induction text generalizing value with
  | nil =>
      cases digits
      exact (List.append_nil _).symm
  | cons character text ih =>
      rw [readFrom] at digits
      split at digits
      · cases digits
      · rename_i digit found
        split at digits
        · obtain ⟨below, rfl⟩ := digitChar_of_value? found
          have longer :=
            Nat.toDigits_append_toDigits (b := 10) (n := value) (by decide) positive below
          rw [Nat.toDigits_of_lt_base below, Nat.mul_comm] at longer
          rw [ih (by omega) digits, render, ← longer, List.append_assoc]
          rfl
        · cases digits

/-- A decimal text without a sign or a leading zero is written for the number read from it. -/
theorem render_of_read {first : Char} {rest : List Char} {value : Nat} (unsigned : first ≠ '+')
    (shortest : first = '0' → rest = []) (digits : read 10 limit (first :: rest) = .ok value) :
    render 10 value = first :: rest := by
  have read : readFrom 10 limit 0 (first :: rest) = .ok value := by
    unfold Digits.read at digits
    split at digits
    · cases digits
    · rename_i same
      exact absurd (List.cons.inj same).1 unsigned
    · rename_i same
      exact absurd (List.cons.inj same).1 unsigned
    · exact digits
  rw [readFrom] at read
  split at read
  · cases read
  · rename_i digit found
    split at read
    · obtain ⟨below, rfl⟩ := digitChar_of_value? found
      rw [Nat.zero_mul, Nat.zero_add] at read
      by_cases zero : digit = 0
      · subst zero
        rw [shortest rfl] at read ⊢
        cases read
        rfl
      · rw [render_of_readFrom (by omega) read, render, Nat.toDigits_of_lt_base below]
        rfl
    · cases read

end Decimal

end Digits

namespace Split

theorem parts_eq_splitOn (separator : Char) (text : List Char) :
    parts separator text = text.splitOn separator := by
  induction text with
  | nil => rfl
  | cons character text ih =>
      have nonempty := List.splitOnP_ne_nil (· == separator) text
      rw [parts, ih, List.splitOn, List.splitOn, List.splitOnP_cons_eq_if_modifyHead]
      cases parts : text.splitOnP (· == separator) with
      | nil => exact absurd parts nonempty
      | cons part others =>
          by_cases same : character = separator <;> simp [same]

/-- Parts without the separator are found between separators. -/
theorem parts_intercalate {separator : Char} {segments : List (List Char)}
    (whole : ∀ segment ∈ segments, separator ∉ segment) (nonempty : segments ≠ []) :
    parts separator ([separator].intercalate segments) = segments := by
  rw [parts_eq_splitOn, List.splitOn_intercalate separator whole nonempty]

/-- The parts of a text with separators between them are the text. -/
theorem intercalate_parts (separator : Char) (text : List Char) :
    [separator].intercalate (parts separator text) = text := by
  rw [parts_eq_splitOn, List.intercalate_splitOn]

/-- The first separator is the one with no other in front of it. -/
theorem first?_eq_some_iff {separator : Char} {text left right : List Char} :
    first? separator text = some (left, right) ↔
      text = left ++ separator :: right ∧ separator ∉ left := by
  induction text generalizing left with
  | nil => simp [first?]
  | cons character text ih =>
      rw [first?]
      split
      · rename_i same
        subst same
        constructor
        · intro here
          cases here
          exact ⟨rfl, List.not_mem_nil⟩
        · rintro ⟨whole, none⟩
          cases left with
          | nil =>
              cases whole
              rfl
          | cons first left =>
              cases whole
              exact absurd List.mem_cons_self none
      · rename_i other
        rw [Option.map_eq_some_iff]
        constructor
        · rintro ⟨⟨front, back⟩, found, same⟩
          cases same
          obtain ⟨rfl, none⟩ := ih.mp found
          exact ⟨rfl, List.not_mem_cons_of_ne_of_not_mem (Ne.symm other) none⟩
        · rintro ⟨whole, none⟩
          cases left with
          | nil =>
              cases whole
              exact absurd rfl other
          | cons first left =>
              cases whole
              exact ⟨(left, right), ih.mpr ⟨rfl, List.not_mem_of_not_mem_cons none⟩, rfl⟩

end Split

end FrameRouter
