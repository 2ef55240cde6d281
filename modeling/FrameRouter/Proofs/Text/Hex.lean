import FrameRouter.Text.Hex

/-!
# Bytes and their hexadecimal digits

What counts of a text are its bytes without the separators.  They are a byte
string if there are two hexadecimal digits for each byte; otherwise an odd
number of them is reported first and the first byte that is no digit after it.
-/

namespace FrameRouter.Hex

/-- The byte is the character of a hexadecimal digit. -/
def isDigit (byte : UInt8) : Bool :=
  (48 ≤ byte && byte ≤ 57) || (65 ≤ byte && byte ≤ 70) || (97 ≤ byte && byte ≤ 102)

/-- The value of a hexadecimal digit. -/
def half (byte : UInt8) : Nat :=
  if byte ≤ 57 then byte.toNat - 48 else if byte ≤ 70 then byte.toNat - 55 else byte.toNat - 87

/-- A capital letter becomes a small one. -/
def lower (byte : UInt8) : UInt8 := if 65 ≤ byte && byte ≤ 90 then byte + 32 else byte

section Digits

theorem toNat_character (byte : UInt8) : (Char.ofNat byte.toNat).toNat = byte.toNat := by
  have bounded := byte.toNat_lt
  have valid : byte.toNat.isValidChar := Or.inl (by omega)
  rw [Char.ofNat, dif_pos valid]
  rfl

theorem isDigit_iff {byte : UInt8} : isDigit byte = true ↔
    (48 ≤ byte.toNat ∧ byte.toNat ≤ 57) ∨ (65 ≤ byte.toNat ∧ byte.toNat ≤ 70) ∨
      (97 ≤ byte.toNat ∧ byte.toNat ≤ 102) := by
  simp [isDigit, UInt8.le_iff_toNat_le, or_assoc]

/-- The digits up to nine, the capital letters and the small ones. -/
theorem half_cases {byte : UInt8} (digit : isDigit byte = true) :
    (half byte = byte.toNat - 48 ∧ 48 ≤ byte.toNat ∧ byte.toNat ≤ 57) ∨
      (half byte = byte.toNat - 55 ∧ 65 ≤ byte.toNat ∧ byte.toNat ≤ 70) ∨
      (half byte = byte.toNat - 87 ∧ 97 ≤ byte.toNat ∧ byte.toNat ≤ 102) := by
  simp only [half, UInt8.le_iff_toNat_le, UInt8.reduceToNat]
  rcases isDigit_iff.mp digit with range | range | range
  · exact Or.inl ⟨if_pos range.2, range⟩
  · refine Or.inr (Or.inl ⟨?_, range⟩)
    rw [if_neg (by omega), if_pos range.2]
  · refine Or.inr (Or.inr ⟨?_, range⟩)
    rw [if_neg (by omega), if_neg (by omega)]

theorem half_lt {byte : UInt8} (digit : isDigit byte = true) : half byte < 16 := by
  have := half_cases digit
  omega

theorem digitValue_of_isDigit {byte : UInt8} (digit : isDigit byte = true) :
    digitValue byte = .ok (UInt8.ofNat (half byte)) := by
  have value : Digits.value? 16 (Char.ofNat byte.toNat) = some (half byte) := by
    simp only [Digits.value?, toNat_character]
    rcases half_cases digit with ⟨value, range⟩ | ⟨value, range⟩ | ⟨value, range⟩
    · rw [if_pos range, value]
      simp
      omega
    · rw [if_neg (by omega), if_pos (by omega), value]
      simp
      omega
    · rw [if_neg (by omega), if_neg (by omega), if_pos (by omega), value]
      simp
      omega
  rw [digitValue, value]

theorem digitValue_of_not_isDigit {byte : UInt8} (other : ¬isDigit byte = true) :
    digitValue byte = .error (.notDigit byte) := by
  rw [isDigit_iff] at other
  have value : Digits.value? 16 (Char.ofNat byte.toNat) = none := by
    simp only [Digits.value?, toNat_character]
    split
    · omega
    · split
      · simp
        omega
      · split
        · simp
          omega
        · rfl
  rw [digitValue, value]

end Digits

section Values

variable {digits : List UInt8}

/-- Digits have their values. -/
theorem mapM_digitValue (all : ∀ byte ∈ digits, isDigit byte = true) :
    digits.mapM digitValue = .ok (digits.map fun byte => UInt8.ofNat (half byte)) := by
  induction digits with
  | nil => rfl
  | cons byte digits ih =>
      obtain ⟨here, further⟩ := List.forall_mem_cons.mp all
      rw [List.mapM_cons, digitValue_of_isDigit here, ih further]
      rfl

/-- The first byte that is no digit is reported. -/
theorem mapM_digitValue_error {byte : UInt8}
    (first : digits.find? (fun byte => !isDigit byte) = some byte) :
    digits.mapM digitValue = .error (.notDigit byte) := by
  induction digits with
  | nil => cases first
  | cons other digits ih =>
      by_cases digit : isDigit other = true
      · rw [List.find?_cons_of_neg (by simpa using digit)] at first
        rw [List.mapM_cons, digitValue_of_isDigit digit, ih first]
        rfl
      · rw [List.find?_cons_of_pos (by simpa using digit)] at first
        cases first
        rw [List.mapM_cons, digitValue_of_not_isDigit digit]
        rfl

theorem length_joinPairs (values : List UInt8) : (joinPairs values).length = values.length / 2 := by
  induction values using joinPairs.induct with
  | case1 high low rest ih =>
      rw [joinPairs, List.length_cons, ih, List.length_cons, List.length_cons]
      omega
  | case2 values short =>
      rcases values with _ | ⟨high, _ | ⟨low, rest⟩⟩
      · rfl
      · simp [joinPairs]
      · exact absurd rfl (short high low rest)

/-- A byte is the pair of values at its place. -/
theorem getElem?_joinPairs (values : List UInt8) (index : Nat) :
    (joinPairs values)[index]? =
      values[2 * index]?.bind fun high => values[2 * index + 1]?.map (high * 16 + ·) := by
  induction values using joinPairs.induct generalizing index with
  | case1 high low rest ih =>
      cases index with
      | zero => rfl
      | succ index =>
          rw [joinPairs, List.getElem?_cons_succ, ih]
          rfl
  | case2 values short =>
      rcases values with _ | ⟨high, _ | ⟨low, rest⟩⟩
      · simp [joinPairs]
      · cases index <;> simp [joinPairs]
      · exact absurd rfl (short high low rest)

end Values

section Acceptance

variable {text : String} {bytes : List UInt8}

theorem decode_of_odd (odd : (significant text).length % 2 = 1) :
    decode text = .error .oddCount := by
  rw [decode, if_pos odd]
  rfl

theorem decode_of_even (even : (significant text).length % 2 = 0) :
    decode text = (significant text).mapM digitValue >>= fun values => pure (joinPairs values) := by
  rw [decode, if_neg (by omega)]

theorem decode_of_digits (even : (significant text).length % 2 = 0)
    (all : ∀ byte ∈ significant text, isDigit byte = true) :
    decode text = .ok (joinPairs ((significant text).map fun byte => UInt8.ofNat (half byte))) := by
  rw [decode_of_even even, mapM_digitValue all]
  rfl

theorem decode_of_find? (even : (significant text).length % 2 = 0) {byte : UInt8}
    (first : (significant text).find? (fun byte => !isDigit byte) = some byte) :
    decode text = .error (.notDigit byte) := by
  rw [decode_of_even even, mapM_digitValue_error first]
  rfl

/-- A text is a byte string if it has an even number of digits and nothing else. -/
theorem decode_eq_ok_iff : decode text = .ok bytes ↔
    (significant text).length % 2 = 0 ∧ (∀ byte ∈ significant text, isDigit byte = true) ∧
      bytes = joinPairs ((significant text).map fun byte => UInt8.ofNat (half byte)) := by
  constructor
  · intro decoded
    rcases Nat.mod_two_eq_zero_or_one (significant text).length with even | odd
    · cases first : (significant text).find? fun byte => !isDigit byte with
      | some byte =>
          rw [decode_of_find? even first] at decoded
          cases decoded
      | none =>
          have all : ∀ byte ∈ significant text, isDigit byte = true := by
            simpa using List.find?_eq_none.mp first
          rw [decode_of_digits even all] at decoded
          cases decoded
          exact ⟨even, all, rfl⟩
    · rw [decode_of_odd odd] at decoded
      cases decoded
  · rintro ⟨even, all, rfl⟩
    exact decode_of_digits even all

/-- Each byte is made of the two digits at its place. -/
theorem bytes_of_decode (decoded : decode text = .ok bytes) :
    2 * bytes.length = (significant text).length ∧
      ∀ index byte, bytes[index]? = some byte → ∃ high low,
        (significant text)[2 * index]? = some high ∧
        (significant text)[2 * index + 1]? = some low ∧
        byte.toNat = 16 * half high + half low := by
  obtain ⟨even, all, rfl⟩ := decode_eq_ok_iff.mp decoded
  refine ⟨?_, ?_⟩
  · rw [length_joinPairs, List.length_map]
    omega
  · intro index byte found
    rw [getElem?_joinPairs, List.getElem?_map, List.getElem?_map] at found
    obtain ⟨first, there, rest⟩ := Option.bind_eq_some_iff.mp found
    obtain ⟨high, highFound, rfl⟩ := Option.map_eq_some_iff.mp there
    obtain ⟨second, there, rfl⟩ := Option.map_eq_some_iff.mp rest
    obtain ⟨low, lowFound, rfl⟩ := Option.map_eq_some_iff.mp there
    have highSmall := half_lt (all high (List.mem_of_getElem? highFound))
    have lowSmall := half_lt (all low (List.mem_of_getElem? lowFound))
    refine ⟨high, low, highFound, lowFound, ?_⟩
    simp
    omega

end Acceptance

section Encoding

/-- The byte of a small digit. -/
def digitByte (value : Nat) : UInt8 := UInt8.ofNat (if value < 10 then 48 + value else 87 + value)

/-- The digits that are written for a byte. -/
def pair (byte : UInt8) : List UInt8 := [digitByte (byte.toNat / 16), digitByte (byte.toNat % 16)]

theorem digitByte_spec : ∀ value < 16, String.utf8EncodeChar (digitOf value) = [digitByte value] ∧
    isSeparator (digitByte value) = false ∧ isDigit (digitByte value) = true ∧
    half (digitByte value) = value := by
  decide

theorem forall_mem_pair {motive : UInt8 → Prop} (each : ∀ value < 16, motive (digitByte value))
    (byte : UInt8) : ∀ digit ∈ pair byte, motive digit := by
  have bounded := byte.toNat_lt
  have high := each (byte.toNat / 16) (by omega)
  have low := each (byte.toNat % 16) (by omega)
  exact List.forall_mem_cons.mpr ⟨high, List.forall_mem_cons.mpr ⟨low, nofun⟩⟩

/-- The bytes of a text, without the separators. -/
theorem significant_eq (text : String) :
    significant text = text.toUTF8.data.toList.filter (!isSeparator ·) := by
  have encoded := String.utf8Encode_toList (b := text)
  rw [String.toUTF8, ← encoded, List.utf8Encode, List.data_toByteArray, significant]

/-- Bytes are written as two digits each. -/
theorem toUTF8_encode (bytes : List UInt8) :
    (encode bytes).toUTF8.data.toList = bytes.flatMap pair := by
  have written (byte : UInt8) : (encodeByte byte).flatMap String.utf8EncodeChar = pair byte := by
    have bounded := byte.toNat_lt
    obtain ⟨high, _⟩ := digitByte_spec (byte.toNat / 16) (by omega)
    obtain ⟨low, _⟩ := digitByte_spec (byte.toNat % 16) (by omega)
    simp [encodeByte, high, low, pair]
  have encoded : (encode bytes).toUTF8 = (bytes.flatMap encodeByte).utf8Encode :=
    String.toByteArray_ofList
  rw [encoded, List.utf8Encode, List.data_toByteArray, List.flatMap_assoc]
  simp only [written]

/-- No separator is written. -/
theorem significant_encode (bytes : List UInt8) :
    significant (encode bytes) = bytes.flatMap pair := by
  rw [significant_eq, toUTF8_encode, List.filter_eq_self]
  intro digit membership
  obtain ⟨byte, _, inside⟩ := List.mem_flatMap.mp membership
  refine forall_mem_pair (motive := fun digit => (!isSeparator digit) = true)
    (fun value small => ?_) byte digit inside
  rw [(digitByte_spec value small).2.1]
  rfl

theorem joinPairs_flatMap_pair (bytes : List UInt8) :
    joinPairs ((bytes.flatMap pair).map fun byte => UInt8.ofNat (half byte)) = bytes := by
  induction bytes with
  | nil => rfl
  | cons byte bytes ih =>
      have bounded := byte.toNat_lt
      obtain ⟨_, _, _, high⟩ := digitByte_spec (byte.toNat / 16) (by omega)
      obtain ⟨_, _, _, low⟩ := digitByte_spec (byte.toNat % 16) (by omega)
      have joined : UInt8.ofNat (byte.toNat / 16) * 16 + UInt8.ofNat (byte.toNat % 16) = byte := by
        apply UInt8.toNat_inj.mp
        simp
        omega
      simp only [List.flatMap_cons, pair, List.cons_append, List.nil_append, List.map_cons,
        joinPairs, high, low, joined]
      exact congrArg (byte :: ·) ih

/-- What was written for bytes is read as them. -/
theorem decode_encode (bytes : List UInt8) : decode (encode bytes) = .ok bytes := by
  have digits := significant_encode bytes
  refine decode_eq_ok_iff.mpr ⟨?_, ?_, ?_⟩
  · have length : (bytes.flatMap pair).length = 2 * bytes.length := by
      rw [List.length_flatMap]
      simp [pair, List.map_const', Nat.mul_comm]
    rw [digits, length]
    omega
  · rw [digits]
    intro digit membership
    obtain ⟨byte, _, inside⟩ := List.mem_flatMap.mp membership
    exact forall_mem_pair (motive := fun digit => isDigit digit = true)
      (fun value small => (digitByte_spec value small).2.2.1) byte digit inside
  · rw [digits, joinPairs_flatMap_pair]

/-- A digit is written in lower case. -/
theorem digitByte_half {digit : UInt8} (isHex : isDigit digit = true) :
    digitByte (half digit) = lower digit := by
  apply UInt8.toNat_inj.mp
  simp only [lower, UInt8.le_iff_toNat_le, Bool.and_eq_true, decide_eq_true_eq,
    UInt8.reduceToNat]
  rcases half_cases isHex with ⟨value, range⟩ | ⟨value, range⟩ | ⟨value, range⟩
  · rw [digitByte, if_pos (by omega), if_neg (by omega), value]
    simp
    omega
  · rw [digitByte, if_neg (by omega), if_pos (by omega), value]
    simp
    omega
  · rw [digitByte, if_neg (by omega), if_neg (by omega), value]
    simp
    omega

theorem flatMap_pair_joinPairs (digits : List UInt8) (even : digits.length % 2 = 0)
    (all : ∀ byte ∈ digits, isDigit byte = true) :
    (joinPairs (digits.map fun byte => UInt8.ofNat (half byte))).flatMap pair =
      digits.map lower := by
  induction digits using joinPairs.induct with
  | case1 high low rest ih =>
      obtain ⟨highDigit, others⟩ := List.forall_mem_cons.mp all
      obtain ⟨lowDigit, further⟩ := List.forall_mem_cons.mp others
      have highSmall := half_lt highDigit
      have lowSmall := half_lt lowDigit
      have joined : (UInt8.ofNat (half high) * 16 + UInt8.ofNat (half low)).toNat =
          half high * 16 + half low := by
        simp
        omega
      have front : (half high * 16 + half low) / 16 = half high := by omega
      have back : (half high * 16 + half low) % 16 = half low := by omega
      rw [List.length_cons, List.length_cons] at even
      simp only [List.map_cons, joinPairs, List.flatMap_cons, pair, joined, front, back,
        digitByte_half highDigit, digitByte_half lowDigit, List.cons_append, List.nil_append]
      exact congrArg (lower high :: lower low :: ·) (ih (by omega) further)
  | case2 digits short =>
      rcases digits with _ | ⟨high, _ | ⟨low, rest⟩⟩
      · rfl
      · cases even
      · exact absurd rfl (short high low rest)

end Encoding

section Separators

theorem significant_append (front rest : String) :
    significant (front ++ rest) = significant front ++ significant rest := by
  simp [significant, String.toList_append]

/-- Separators do not count, wherever they stand. -/
theorem decode_separated (front rest : String) {separators : String}
    (only : ∀ character ∈ separators.toList,
      character ∈ [':', ' ', '\t', '\n', '\x0c', '\r']) :
    decode (front ++ separators ++ rest) = decode (front ++ rest) := by
  have none : significant separators = [] := by
    refine List.filter_eq_nil_iff.mpr fun byte membership => ?_
    obtain ⟨character, listed, inside⟩ := List.mem_flatMap.mp membership
    have separates : (String.utf8EncodeChar character).all isSeparator = true := by
      have only := only character listed
      simp only [List.mem_cons, List.not_mem_nil, or_false] at only
      rcases only with rfl | rfl | rfl | rfl | rfl | rfl <;> rfl
    simp [List.all_eq_true.mp separates byte inside]
  rw [decode, decode, significant_append, significant_append, significant_append, none,
    List.append_nil]

end Separators

/-- Whether and how bytes without separators are a byte string. -/
structure Spelled (digits : List UInt8) (outcome : Except Fault (List UInt8)) : Prop where
  accepted : (∃ bytes, outcome = .ok bytes) ↔
    digits.length % 2 = 0 ∧ ∀ byte ∈ digits, isDigit byte = true
  length : ∀ bytes, outcome = .ok bytes → bytes.length = digits.length / 2
  value : ∀ bytes, outcome = .ok bytes → ∀ index byte, bytes[index]? = some byte →
    ∃ high low, digits[2 * index]? = some high ∧ digits[2 * index + 1]? = some low ∧
      byte.toNat = 16 * half high + half low
  lowered : ∀ bytes, outcome = .ok bytes → (encode bytes).toUTF8.data.toList = digits.map lower
  /-- An odd number of digits is reported whatever they are. -/
  odd : digits.length % 2 = 1 → outcome = .error .oddCount
  foreign : digits.length % 2 = 0 → ∀ byte,
    digits.find? (fun byte => !isDigit byte) = some byte → outcome = .error (.notDigit byte)

/--
A text is read exactly as its bytes without separators spell, what is written
for bytes is read as them, and separators may stand anywhere, also between the
digits of one byte.
-/
theorem decode_exact :
    (∀ text : String, Spelled
      (text.toUTF8.data.toList.filter fun byte => byte ∉ [9, 10, 12, 13, 32, 58])
      (decode text)) ∧
      (∀ bytes, decode (encode bytes) = .ok bytes) ∧
      ∀ front separators rest : String,
        (∀ character ∈ separators.toList,
          character ∈ [':', ' ', '\t', '\n', '\x0c', '\r']) →
        decode (front ++ separators ++ rest) = decode (front ++ rest) := by
  refine ⟨fun text => ?_, decode_encode, fun front _ rest only => decode_separated front rest only⟩
  have digits : (text.toUTF8.data.toList.filter fun byte => byte ∉ [9, 10, 12, 13, 32, 58]) =
      significant text := by
    rw [significant_eq]
    refine List.filter_congr fun byte _ => ?_
    simp [isSeparator, Bool.and_assoc]
  rw [digits]
  refine ⟨?_, ?_, ?_, ?_, decode_of_odd, fun even _ => decode_of_find? even⟩
  · constructor
    · rintro ⟨bytes, decoded⟩
      obtain ⟨even, all, _⟩ := decode_eq_ok_iff.mp decoded
      exact ⟨even, all⟩
    · rintro ⟨even, all⟩
      exact ⟨_, decode_of_digits even all⟩
  · intro bytes decoded
    have length := (bytes_of_decode decoded).1
    omega
  · exact fun bytes decoded => (bytes_of_decode decoded).2
  · intro bytes decoded
    obtain ⟨even, all, rfl⟩ := decode_eq_ok_iff.mp decoded
    rw [toUTF8_encode, flatMap_pair_joinPairs _ even all]

/-- The digits of a byte may stand on two lines. -/
theorem decode_exact_apart : decode ("5" ++ ":\n" ++ "2 aB") = .ok [0x52, 0xab] := by
  have only : ∀ character ∈ [':', '\n'], character ∈ [':', ' ', '\t', '\n', '\x0c', '\r'] := by
    simp
  have apart := decode_exact.2.2 "5" ":\n" "2 aB" only
  rw [apart]
  rfl

end FrameRouter.Hex
