import FrameRouter.Json.Number

/-!
# Numerals in documents

A natural number is written as its decimal digits, without a sign and without a
leading zero.  Read where no part of a number follows, these digits give the
number back, as long as it has at most 64 bits.
-/

namespace FrameRouter.Json

/-- Nothing at the front of the text continues a number. -/
def Delimited (text : List Char) : Prop :=
  ∀ character ∈ text.head?, character.isDigit = false ∧ character ≠ '.' ∧
    character ≠ 'e' ∧ character ≠ 'E'

namespace Delimited

theorem nil : Delimited [] := by
  intro character first
  cases first

theorem cons {character : Char} (rest : List Char) (other : character ∈ [',', ']', '\x7d']) :
    Delimited (character :: rest) := by
  intro first same
  cases same
  simp only [List.mem_cons, List.not_mem_nil, or_false] at other
  rcases other with rfl | rfl | rfl <;> decide

variable {rest : List Char}

theorem startsWithDigit (delimited : Delimited rest) : startsWithDigit rest = false := by
  cases rest with
  | nil => rfl
  | cons character rest => exact (delimited character rfl).1

theorem startsExponent (delimited : Delimited rest) : startsExponent rest = false := by
  cases rest with
  | nil => rfl
  | cons character rest =>
      obtain ⟨_, _, small, large⟩ := delimited character rfl
      simp [Json.startsExponent, small, large]

end Delimited

/-- Digits only make a number larger. -/
theorem le_ofDigitChars (digits : List Char) (value : Nat) :
    value ≤ Nat.ofDigitChars 10 digits value := by
  induction digits generalizing value with
  | nil => exact Nat.le_refl value
  | cons digit digits ih =>
      rw [Nat.ofDigitChars_cons]
      refine Nat.le_trans ?_ (ih _)
      omega

/-- Digits are appended as long as there are any, if the number stays in range. -/
theorem appendDigits_append {digits rest : List Char} {value : Nat}
    (decimal : ∀ digit ∈ digits, digit.isDigit = true)
    (within : Nat.ofDigitChars 10 digits value ≤ largestSignificand)
    (ended : startsWithDigit rest = false) (count : Nat) :
    appendDigits value count (digits ++ rest) =
      (Nat.ofDigitChars 10 digits value, count + digits.length, rest) := by
  induction digits generalizing value count with
  | nil =>
      cases rest with
      | nil => rfl
      | cons character rest =>
          have other : character.isDigit = false := ended
          simp [appendDigits, other]
  | cons digit digits ih =>
      obtain ⟨isDigit, decimal⟩ := List.forall_mem_cons.mp decimal
      have next : value * 10 + (digit.toNat - 48) = 10 * value + (digit.toNat - '0'.toNat) := by
        rw [Nat.mul_comm]
        rfl
      rw [Nat.ofDigitChars_cons] at within ⊢
      rw [List.cons_append, appendDigits, next,
        if_pos ⟨isDigit, Nat.le_trans (le_ofDigitChars digits _) within⟩,
        ih decimal within, List.length_cons, Nat.add_assoc, Nat.add_comm 1]

/-- Decimal digits begin with a zero only if there is no other. -/
theorem exists_digits (value : Nat) :
    ∃ first rest, Digits.render 10 value = first :: rest ∧ first.isDigit = true ∧
      (first = '0' → value = 0 ∧ rest = []) := by
  unfold Digits.render
  induction value using Nat.strongRecOn with
  | ind value ih =>
      rw [Nat.toDigits_eq_if (by decide)]
      split
      · rename_i small
        refine ⟨value.digitChar, [], rfl, ?_, ?_⟩
        · rw [Nat.isDigit_digitChar]
          exact decide_eq_true small
        · intro zero
          exact ⟨Nat.digitChar_eq_zero.mp zero, rfl⟩
      · rename_i large
        obtain ⟨first, rest, digits, isDigit, zero⟩ := ih (value / 10) (by omega)
        refine ⟨first, rest ++ [(value % 10).digitChar], by rw [digits]; rfl, isDigit, ?_⟩
        intro leading
        have none := (zero leading).1
        omega

/-- In front of what does not continue it a number is an integer. -/
theorem finishNumber_delimited {rest : List Char} (delimited : Delimited rest) (value : Nat) :
    finishNumber false value rest = .ok (.integer value, rest) := by
  unfold finishNumber
  split
  · exact absurd rfl (delimited '.' rfl).2.1
  · rw [delimited.startsExponent]
    rfl

/-- Behind its digits the reading of a number of at most 64 bits goes on with the number. -/
theorem unsignedNumber_digits {value : Nat} {rest : List Char} (negative : Bool)
    (within : value ≤ largestSignificand) (ended : startsWithDigit rest = false) :
    unsignedNumber negative (Digits.render 10 value ++ rest) =
      finishNumber negative value rest := by
  obtain ⟨first, others, digits, isDigit, zero⟩ := exists_digits value
  by_cases leading : first = '0'
  · obtain ⟨rfl, rfl⟩ := zero leading
    rw [digits, leading]
    simp only [List.cons_append, List.nil_append, unsignedNumber, ended]
    rfl
  · have read : Nat.ofDigitChars 10 (first :: others) 0 = value := by
      rw [← digits]
      exact Nat.ofDigitChars_ten_toDigits
    have decimal : ∀ digit ∈ first :: others, digit.isDigit = true := by
      intro digit membership
      rw [← digits] at membership
      exact Nat.isDigit_of_mem_toDigits (by decide) (by decide) membership
    have appended := appendDigits_append decimal (by rwa [read]) ended 0
    rw [read, List.cons_append] at appended
    rw [digits, List.cons_append]
    unfold unsignedNumber
    split
    · rename_i none
      cases none
    · rename_i same
      cases same
      exact absurd rfl leading
    · rename_i same
      cases same
      rw [if_pos isDigit, appended]
      simp only [ended]
      rfl

theorem unsignedNumber_render {value : Nat} {rest : List Char}
    (within : value ≤ largestSignificand) (delimited : Delimited rest) :
    unsignedNumber false (Digits.render 10 value ++ rest) = .ok (.integer value, rest) := by
  rw [unsignedNumber_digits false within delimited.startsWithDigit]
  exact finishNumber_delimited delimited value

/-- The digits of a number are read as the number. -/
theorem readNumber_render {value : Nat} {rest : List Char} (within : value ≤ largestSignificand)
    (delimited : Delimited rest) :
    readNumber (Digits.render 10 value ++ rest) = .ok (.integer value, rest) := by
  have unsigned := unsignedNumber_render within delimited
  obtain ⟨first, others, digits, isDigit, _⟩ := exists_digits value
  rw [digits, List.cons_append] at unsigned ⊢
  unfold readNumber
  split
  · rename_i same
    cases same
    cases isDigit
  · exact unsigned

end FrameRouter.Json
