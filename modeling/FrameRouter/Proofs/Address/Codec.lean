import FrameRouter.Proofs.Address.Notation
import FrameRouter.Proofs.Text.Numerals

/-!
# Link-layer addresses and all their texts

A text is a link-layer address if there are six hexadecimal numerals of bytes
between its colons.  The text that is written for an address is one of these:
it has two lower-case digits for each byte.
-/

namespace FrameRouter

/-- Each of some texts has a value if the texts have a list of values. -/
theorem exists_forall₂_iff {α β : Type} {relation : α → β → Prop} {texts : List β} :
    (∃ values, List.Forall₂ relation values texts) ↔
      ∀ text ∈ texts, ∃ value, relation value text := by
  induction texts with
  | nil => exact ⟨fun _ => nofun, fun _ => ⟨[], .nil⟩⟩
  | cons text texts ih =>
      rw [List.forall_mem_cons, ← ih]
      constructor
      · rintro ⟨values, all⟩
        cases all with
        | cons first rest => exact ⟨⟨_, first⟩, _, rest⟩
      · rintro ⟨⟨value, first⟩, values, rest⟩
        exact ⟨value :: values, .cons first rest⟩

namespace Mac

theorem bytes_ofBytes (a b c d e f : UInt8) : (ofBytes a b c d e f).bytes = [a, b, c, d, e, f] := by
  have first := a.toNat_lt
  have second := b.toNat_lt
  have third := c.toNat_lt
  have fourth := d.toNat_lt
  have fifth := e.toNat_lt
  have sixth := f.toNat_lt
  have high : (ofBytes a b c d e f).high.toNat = a.toNat * 256 + b.toNat :=
    UInt16.toNat_ofNat_of_lt' (by change _ < 65536; omega)
  have low : (ofBytes a b c d e f).low.toNat =
      ((c.toNat * 256 + d.toNat) * 256 + e.toNat) * 256 + f.toNat :=
    UInt32.toNat_ofNat_of_lt' (by change _ < 4294967296; omega)
  simp only [bytes, List.cons.injEq, and_true, ← UInt8.toNat_inj, UInt16.toNat_toUInt8,
    UInt16.toNat_shiftRight, UInt16.reduceToNat, UInt32.toNat_toUInt8, UInt32.toNat_shiftRight,
    UInt32.reduceToNat, Nat.shiftRight_eq_div_pow, Nat.reduceMod, high, low]
  omega

/-- A part of a text is a byte if it is a hexadecimal numeral of it. -/
theorem byte?_eq_some_iff {part : List Char} {byte : UInt8} :
    byte? part = some byte ↔ Digits.Numeral 16 part byte.toNat := by
  have small : 16 ≤ 16 := Nat.le_refl 16
  constructor
  · intro read
    unfold byte? at read
    split at read
    · rename_i value digits
      cases read
      obtain ⟨numeral, within⟩ := (Digits.read_eq_ok_iff small).mp digits
      rwa [UInt8.toNat_ofNat_of_lt' (Nat.lt_succ_of_le within)]
    · cases read
  · intro numeral
    have within : byte.toNat ≤ 255 := Nat.le_of_lt_succ byte.toNat_lt
    rw [byte?, (Digits.read_eq_ok_iff small).mpr ⟨numeral, within⟩]
    exact congrArg some UInt8.ofNat_toNat

/-- A part of a text can be read if it is a hexadecimal numeral of at most 255. -/
theorem exists_byte?_iff {part : List Char} :
    (∃ byte, byte? part = some byte) ↔ ∃ value ≤ 255, Digits.Numeral 16 part value := by
  constructor
  · rintro ⟨byte, read⟩
    exact ⟨byte.toNat, Nat.le_of_lt_succ byte.toNat_lt, byte?_eq_some_iff.mp read⟩
  · rintro ⟨value, within, numeral⟩
    have whole : (UInt8.ofNat value).toNat = value :=
      UInt8.toNat_ofNat_of_lt' (Nat.lt_succ_of_le within)
    exact ⟨.ofNat value, byte?_eq_some_iff.mpr (by rwa [whole])⟩

/-- A text is an address if the parts between its colons are the bytes of the address. -/
theorem parse?_eq_some_iff {text : String} {mac : Mac} :
    parse? text = some mac ↔
      List.Forall₂ (fun byte part => byte? part = some byte) mac.bytes
        (text.toList.splitOn ':') := by
  rw [← mapM_eq_some_iff, ← Split.parts_eq_splitOn]
  constructor
  · intro read
    unfold parse? at read
    split at read
    · rename_i a b c d e f parts
      cases read
      rw [parts, bytes_ofBytes]
    · cases read
  · intro parts
    rw [parse?_of_parts parts, ofBytes_parts]

/-- Six bytes are those of an address. -/
theorem exists_bytes_eq {bytes : List UInt8} (six : bytes.length = 6) :
    ∃ mac : Mac, mac.bytes = bytes := by
  match bytes, six with
  | [a, b, c, d, e, f], _ => exact ⟨ofBytes a b c d e f, bytes_ofBytes a b c d e f⟩

/-- Two lower-case digits. -/
def pair (byte : UInt8) : List Char :=
  [(byte.toNat / 16).digitChar, (byte.toNat % 16).digitChar]

theorem renderPadded_eq_pair (byte : UInt8) : Digits.renderPadded 16 2 byte.toNat = pair byte := by
  have bounded := byte.toNat_lt
  unfold Digits.renderPadded Digits.render pair
  rw [Nat.toDigits_eq_if (by decide)]
  split
  · rename_i below
    have high : byte.toNat / 16 = 0 := by omega
    have low : byte.toNat % 16 = byte.toNat := by omega
    rw [high, low]
    rfl
  · have below : byte.toNat / 16 < 16 := by omega
    rw [Nat.toDigits_of_lt_base below]
    rfl

/-- Whether and how the parts of a text are the bytes of an address. -/
structure Spelled (parts : List (List Char)) (outcome : Option Mac) : Prop where
  accepted : (∃ mac, outcome = some mac) ↔
    parts.length = 6 ∧ ∀ part ∈ parts, ∃ value ≤ 255, Digits.Numeral 16 part value
  bytes : ∀ mac, outcome = some mac →
    List.Forall₂ (Digits.Numeral 16) parts (mac.bytes.map UInt8.toNat)

theorem spelled_parse? (text : String) : Spelled (text.toList.splitOn ':') (parse? text) where
  accepted := by
    simp only [parse?_eq_some_iff, ← exists_byte?_iff]
    rw [← exists_forall₂_iff]
    constructor
    · rintro ⟨mac, parts⟩
      exact ⟨parts.length_eq.symm, mac.bytes, parts⟩
    · rintro ⟨six, bytes, parts⟩
      obtain ⟨mac, rfl⟩ := exists_bytes_eq (parts.length_eq.trans six)
      exact ⟨mac, parts⟩
  bytes := by
    intro mac read
    have parts := parse?_eq_some_iff.mp read
    rw [List.forall₂_map_right_iff]
    exact parts.flip.imp fun part byte found => byte?_eq_some_iff.mp found

/-- The text of an address, and what is read from it. -/
structure Written (mac : Mac) (given : List UInt8) : Prop where
  bytes : mac.bytes = given
  text : mac.render.toList = [':'].intercalate (given.map pair)
  read : parse? mac.render = some mac

/--
A text is read exactly if it spells six bytes between colons, as these bytes,
and six bytes are read from the text that is written for them.
-/
theorem codec_exact :
    (∀ text : String, Spelled (text.toList.splitOn ':') (parse? text)) ∧
      ∀ a b c d e f : UInt8, Written (ofBytes a b c d e f) [a, b, c, d, e, f] := by
  refine ⟨spelled_parse?, fun a b c d e f => ?_⟩
  have bytes := bytes_ofBytes a b c d e f
  refine ⟨bytes, ?_, parse?_render _⟩
  simp only [render, String.toList_ofList, renderPadded_eq_pair, bytes]
  rfl

/-- Signs, zeros in front and the case of a letter do not count; an empty part does. -/
example : parse? "+2:0:0000:aA:Bb:+0cc" = some (ofBytes 2 0 0 0xaa 0xbb 0xcc) ∧
    parse? "02:00:00:aa:bb:" = none := by decide +kernel

end Mac

end FrameRouter
