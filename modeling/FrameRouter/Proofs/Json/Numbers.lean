import FrameRouter.Json.Scalar
import FrameRouter.Proofs.Json.Grammar
import FrameRouter.Proofs.Json.Numeral

/-!
# Numbers in every form

A number may have a sign, places behind a point and an exponent.  Only one
without any of them is read as a natural number; every one is passed over.
-/

namespace FrameRouter.Json

/-- What was read is no natural number. -/
def Unnatural (outcome : Except Failure (Number × List Char)) : Prop :=
  ∀ value rest, outcome = .ok (.integer value, rest) → value < 0

namespace Unnatural

theorem error (failure : Failure) : Unnatural (.error failure) := by
  intro value rest same
  cases same

theorem real (negative : Bool) (number : Binary64) (rest : List Char) :
    Unnatural (.ok (.real negative number, rest)) := by
  intro value after same
  cases same

theorem realNumber (negative : Bool) (significand : Nat) (exponent : Int) (rest : List Char) :
    Unnatural (realNumber negative significand exponent rest) := by
  unfold Json.realNumber
  cases Binary64.ofDecimal? significand exponent with
  | none => exact .error _
  | some number => exact .real negative number rest

theorem exponentDigits (negative : Bool) (significand : Nat) (exponent : Int) (below : Bool)
    (text : List Char) : Unnatural (exponentDigits negative significand exponent below text) := by
  unfold Json.exponentDigits
  split
  · exact .error _
  · split
    · dsimp only
      split
      · exact .realNumber negative significand _ _
      · split
        · exact .error _
        · exact .real negative _ _
    · exact .error _

theorem exponentPart (negative : Bool) (significand : Nat) (exponent : Int) (text : List Char) :
    Unnatural (exponentPart negative significand exponent text) := by
  unfold Json.exponentPart
  split
  · exact .exponentDigits negative significand exponent false _
  · exact .exponentDigits negative significand exponent true _
  · exact .exponentDigits negative significand exponent false _

theorem finishReal (negative : Bool) (significand : Nat) (exponent : Int) (text : List Char) :
    Unnatural (finishReal negative significand exponent text) := by
  unfold Json.finishReal
  split
  · exact .exponentPart negative significand exponent _
  · exact .realNumber negative significand exponent text

theorem fractionPart (negative : Bool) (significand : Nat) (exponent : Int) (text : List Char) :
    Unnatural (fractionPart negative significand exponent text) := by
  unfold Json.fractionPart
  dsimp only
  split
  · exact .finishReal negative _ _ _
  · split
    · exact .error _
    · exact .finishReal negative _ _ _

/-- An integer behind a minus is below zero: negative zero is a real number. -/
theorem integerNumber (significand : Nat) (rest : List Char) :
    Unnatural (integerNumber true significand rest) := by
  rw [Json.integerNumber, if_neg (by decide)]
  by_cases outside : significand = 0 ∨ Nat.pow 2 63 < significand
  · rw [if_pos outside]
    exact .realNumber true significand 0 rest
  · rw [if_neg outside]
    have positive : significand ≠ 0 := fun zero => outside (Or.inl zero)
    intro value after same
    cases same
    omega

theorem finishNumber (significand : Nat) (text : List Char) :
    Unnatural (finishNumber true significand text) := by
  unfold Json.finishNumber
  split
  · exact .fractionPart true significand 0 _
  · split
    · exact .finishReal true significand 0 text
    · exact .integerNumber significand text

theorem unsignedNumber (text : List Char) : Unnatural (unsignedNumber true text) := by
  unfold Json.unsignedNumber
  split
  · exact .error _
  · split
    · exact .error _
    · exact .finishNumber 0 _
  · split
    · dsimp only
      split
      · split
        · exact .fractionPart true _ _ _
        · exact .finishReal true _ _ _
      · exact .finishNumber _ _
    · exact .error _

end Unnatural

section Figures

theorem isDigit_digitChar (digit : Fin 10) : (Nat.digitChar digit).isDigit = true := by
  rw [Nat.isDigit_digitChar]
  exact decide_eq_true digit.isLt

theorem forall_digitText (digits : List (Fin 10)) :
    ∀ character ∈ digitText digits, character.isDigit = true := by
  intro character membership
  obtain ⟨digit, _, rfl⟩ := List.mem_map.mp membership
  exact isDigit_digitChar digit

/-- Digits are passed over up to the first character that is none. -/
theorem skipDigits_append {digits rest : List Char}
    (decimal : ∀ digit ∈ digits, digit.isDigit = true) (ended : startsWithDigit rest = false) :
    skipDigits (digits ++ rest) = rest := by
  induction digits with
  | nil =>
      cases rest with
      | nil => rfl
      | cons character rest =>
          have other : character.isDigit = false := ended
          simp [skipDigits, other]
  | cons digit digits ih =>
      obtain ⟨isDigit, decimal⟩ := List.forall_mem_cons.mp decimal
      rw [List.cons_append, skipDigits, List.dropWhile_cons_of_pos isDigit]
      exact ih decimal

/-- Digits of too large a number are appended only in part. -/
theorem startsWithDigit_appendDigits {digits : List Char} {value : Nat}
    (decimal : ∀ digit ∈ digits, digit.isDigit = true) (within : value ≤ largestSignificand)
    (beyond : largestSignificand < Nat.ofDigitChars 10 digits value) (count : Nat)
    (rest : List Char) :
    startsWithDigit (appendDigits value count (digits ++ rest)).2.2 = true := by
  induction digits generalizing value count with
  | nil => exact absurd within (Nat.not_le_of_lt beyond)
  | cons digit digits ih =>
      obtain ⟨isDigit, decimal⟩ := List.forall_mem_cons.mp decimal
      rw [List.cons_append, appendDigits]
      split
      · rename_i fits
        refine ih decimal fits.2 ?_ (count + 1)
        rwa [Nat.ofDigitChars_cons, Nat.mul_comm] at beyond
      · exact isDigit

theorem digits_render (value : Nat) :
    (∀ digit ∈ Digits.render 10 value, digit.isDigit = true) ∧
      Nat.ofDigitChars 10 (Digits.render 10 value) 0 = value := by
  constructor
  · intro digit membership
    exact Nat.isDigit_of_mem_toDigits (by decide) (by decide) membership
  · exact Nat.ofDigitChars_ten_toDigits

variable {value : Nat} {rest : List Char}

/-- Too large a number is a real number. -/
theorem unnatural_of_beyond (beyond : largestSignificand < value) :
    Unnatural (unsignedNumber false (Digits.render 10 value ++ rest)) := by
  obtain ⟨decimal, whole⟩ := digits_render value
  obtain ⟨first, others, digits, isDigit, zero⟩ := exists_digits value
  have left := startsWithDigit_appendDigits decimal (Nat.zero_le _) (by rwa [whole]) 0 rest
  rw [digits, List.cons_append] at left ⊢
  unfold unsignedNumber
  split
  · exact .error _
  · rename_i same
    cases same
    have := (zero rfl).1
    omega
  · rename_i same
    cases same
    rw [if_pos isDigit]
    simp only [left, if_true]
    split
    · exact .fractionPart false _ _ _
    · exact .finishReal false _ _ _

/-- Behind the digits in front of the point stands nothing, a point or an exponent. -/
theorem Numeral.tail_cases (numeral : Numeral) :
    numeral.tail = [] ∨ (∃ rest, numeral.tail = '.' :: rest) ∨
      ∃ rest, numeral.tail = 'e' :: rest ∨ numeral.tail = 'E' :: rest := by
  obtain ⟨negative, whole, places, exponent⟩ := numeral
  cases places with
  | cons digit others => exact Or.inr (Or.inl ⟨_, rfl⟩)
  | nil =>
      cases exponent with
      | none => exact Or.inl rfl
      | some exponent =>
          obtain ⟨capital, sign, first, others⟩ := exponent
          cases capital with
          | false => exact Or.inr (Or.inr ⟨_, Or.inl rfl⟩)
          | true => exact Or.inr (Or.inr ⟨_, Or.inr rfl⟩)

/-- An exponent right behind the digits makes a real number. -/
theorem unnatural_of_startsExponent {text : List Char} (starts : startsExponent text = true) :
    Unnatural (finishNumber false value text) := by
  unfold finishNumber
  split
  · exact .fractionPart false value 0 _
  · rw [if_pos starts]
    exact .finishReal false value 0 text

/-- A number with places or an exponent is a real number. -/
theorem unnatural_tail {numeral : Numeral} (tailed : numeral.tail ≠ []) (rest : List Char) :
    Unnatural (finishNumber false value (numeral.tail ++ rest)) := by
  rcases numeral.tail_cases with none | ⟨after, point⟩ | ⟨after, small | capital⟩
  · exact absurd none tailed
  · rw [point]
    exact .fractionPart false value 0 (after ++ rest)
  · rw [small]
    exact unnatural_of_startsExponent rfl
  · rw [capital]
    exact unnatural_of_startsExponent rfl

end Figures

namespace Numeral

theorem startsWithDigit_tail {rest : List Char} (numeral : Numeral)
    (ended : startsWithDigit rest = false) : startsWithDigit (numeral.tail ++ rest) = false := by
  rcases numeral.tail_cases with none | ⟨after, point⟩ | ⟨after, small | capital⟩
  · rwa [none, List.nil_append]
  · rw [point]
    rfl
  · rw [small]
    rfl
  · rw [capital]
    rfl

/-- A number without a sign begins with a digit. -/
theorem exists_unsigned (numeral : Numeral) :
    ∃ first rest, numeral.unsigned = first :: rest ∧ first.isDigit = true := by
  obtain ⟨first, others, digits, isDigit, _⟩ := exists_digits numeral.whole
  exact ⟨first, others ++ numeral.tail, by rw [unsigned, digits, List.cons_append], isDigit⟩

theorem startsNumber_text (numeral : Numeral) (rest : List Char) :
    startsNumber (numeral.text ++ rest) = true := by
  obtain ⟨first, others, text, figure⟩ := numeral.exists_first
  rw [text]
  simpa [startsNumber] using figure

/-- Behind the sign of a number its digits are read. -/
theorem readNumber_text (numeral : Numeral) (rest : List Char) :
    readNumber (numeral.text ++ rest) =
      unsignedNumber numeral.negative (numeral.unsigned ++ rest) := by
  unfold text
  cases numeral.negative with
  | true => rfl
  | false =>
      obtain ⟨first, others, digits, isDigit⟩ := numeral.exists_unsigned
      rw [if_neg (by decide), digits, List.cons_append]
      unfold readNumber
      split
      · rename_i same
        cases same
        cases isDigit
      · rfl

/-- A number with a sign, with places, with an exponent or out of range is not read as natural. -/
theorem unnatural_readNumber {numeral : Numeral} {rest : List Char}
    (other : numeral = natural numeral.whole → largestSignificand < numeral.whole)
    (ended : startsWithDigit rest = false) : Unnatural (readNumber (numeral.text ++ rest)) := by
  rw [readNumber_text]
  cases sign : numeral.negative with
  | true => exact .unsignedNumber _
  | false =>
      rw [unsigned, List.append_assoc]
      by_cases beyond : largestSignificand < numeral.whole
      · exact unnatural_of_beyond beyond
      · rw [unsignedNumber_digits false (Nat.le_of_not_lt beyond)
          (numeral.startsWithDigit_tail ended)]
        refine unnatural_tail (fun none => beyond (other ?_)) rest
        obtain ⟨negative, whole, places, exponent⟩ := numeral
        cases sign
        cases places with
        | cons digit others => cases none
        | nil =>
            cases exponent with
            | none => rfl
            | some exponent => cases none

/-- Behind the letter and the sign of an exponent its digits are passed over. -/
theorem skipExponent_sign {letter : Char} (known : letter = 'e' ∨ letter = 'E')
    (sign : Option Bool) {digits : List Char} (begins : startsWithDigit digits = true) :
    skipExponent (letter :: (Exponent.signText sign ++ digits)) = .ok (skipDigits digits) := by
  have starts : startsExponent (letter :: (Exponent.signText sign ++ digits)) = true := by
    simpa [startsExponent] using known
  rw [skipExponent, if_pos starts, List.drop_one, List.tail_cons]
  cases sign with
  | some minus =>
      cases minus with
      | false => exact if_pos begins
      | true => exact if_pos begins
  | none =>
      rw [Exponent.signText, List.nil_append]
      cases digits with
      | nil => cases begins
      | cons digit others =>
          split
          · rename_i same
            cases same
            cases begins
          · rename_i same
            cases same
            cases begins
          · exact if_pos begins

/-- An exponent is passed over. -/
theorem skipExponent_text (exponent : Option Exponent) {rest : List Char}
    (delimited : Delimited rest) : skipExponent (exponentText exponent ++ rest) = .ok rest := by
  cases exponent with
  | none => simp [exponentText, skipExponent, delimited.startsExponent]
  | some exponent =>
      have known : exponent.letter = 'e' ∨ exponent.letter = 'E' := by
        unfold Exponent.letter
        cases exponent.capital with
        | false => exact Or.inl rfl
        | true => exact Or.inr rfl
      have begins :
          startsWithDigit (digitText (exponent.first :: exponent.others) ++ rest) = true :=
        isDigit_digitChar exponent.first
      have skipped := skipExponent_sign known exponent.sign begins
      rw [skipDigits_append (forall_digitText _) delimited.startsWithDigit] at skipped
      rwa [exponentText, Exponent.text, List.cons_append, List.cons_append, List.append_assoc]

/-- Without a point only an exponent may follow. -/
theorem skipFraction_pointless {text : List Char} (pointless : ∀ rest, text ≠ '.' :: rest) :
    skipFraction text = skipExponent text := by
  unfold skipFraction
  split
  · exact absurd rfl (pointless _)
  · rfl

/-- The places of a number and its exponent are passed over. -/
theorem skipFraction_tail (numeral : Numeral) {rest : List Char} (delimited : Delimited rest) :
    skipFraction (numeral.tail ++ rest) = .ok rest := by
  obtain ⟨negative, whole, places, exponent⟩ := numeral
  have passed := skipExponent_text exponent delimited
  cases places with
  | cons digit others =>
      have ended : startsWithDigit (exponentText exponent ++ rest) = false :=
        startsWithDigit_tail ⟨false, 0, [], exponent⟩ delimited.startsWithDigit
      have begins :
          startsWithDigit (digitText (digit :: others) ++ (exponentText exponent ++ rest)) =
          true := isDigit_digitChar digit
      rw [tail, fractionText, List.cons_append, List.cons_append, List.append_assoc, skipFraction,
        if_pos begins, skipDigits_append (forall_digitText _) ended]
      exact passed
  | nil =>
      rw [tail, fractionText, List.nil_append]
      rw [skipFraction_pointless]
      · exact passed
      · intro after point
        cases exponent with
        | none =>
            refine (delimited '.' ?_).2.1 rfl
            rw [← List.nil_append rest, ← exponentText, point]
            rfl
        | some exponent =>
            obtain ⟨capital, sign, first, others⟩ := exponent
            cases capital with
            | false => cases point
            | true => cases point

/-- A digit other than zero may be followed by others. -/
theorem skipNumber_digit {first : Char} (isDigit : first.isDigit = true) (nonzero : first ≠ '0')
    (rest : List Char) :
    skipNumber (first :: rest) = skipFraction (skipDigits (first :: rest)) ∧
      skipNumber ('-' :: first :: rest) = skipFraction (skipDigits (first :: rest)) := by
  have unsigned : first ≠ '-' := by
    rintro rfl
    cases isDigit
  have begins : startsWithDigit (first :: rest) = true := isDigit
  constructor
  · simp [skipNumber, unsigned, nonzero, begins]
  · simp [skipNumber, nonzero, begins]

/-- A number is passed over, whatever its form. -/
theorem skipNumber_text (numeral : Numeral) {rest : List Char} (delimited : Delimited rest) :
    skipNumber (numeral.text ++ rest) = .ok rest := by
  have ended := numeral.startsWithDigit_tail delimited.startsWithDigit
  have passed := numeral.skipFraction_tail delimited
  have behind := skipDigits_append (digits_render numeral.whole).1 ended
  obtain ⟨first, others, digits, isDigit, zero⟩ := exists_digits numeral.whole
  rw [text, unsigned, digits]
  rw [digits, List.cons_append] at behind
  by_cases leading : first = '0'
  · obtain ⟨_, rfl⟩ := zero leading
    have alone : (if startsWithDigit (numeral.tail ++ rest) then .error .malformed
        else skipFraction (numeral.tail ++ rest)) = Except.ok rest := by
      rw [if_neg (by simp [ended]), passed]
    rw [leading]
    cases numeral.negative with
    | false => exact alone
    | true => exact alone
  · have other := skipNumber_digit isDigit leading (others ++ (numeral.tail ++ rest))
    rw [behind, passed] at other
    cases numeral.negative with
    | false =>
        rw [if_neg (by decide), List.cons_append, List.cons_append, List.append_assoc]
        exact other.1
    | true =>
        rw [if_pos rfl, List.cons_append, List.cons_append, List.cons_append, List.append_assoc]
        exact other.2

end Numeral

end FrameRouter.Json
