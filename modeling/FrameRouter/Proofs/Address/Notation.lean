import FrameRouter.Address.Ipv4
import FrameRouter.Address.Mac
import FrameRouter.Proofs.Json.Numeral
import FrameRouter.Proofs.Text.Digits

/-!
# Addresses and their texts

An address is read from the text it is written as.  A network address has no
other text, while a link-layer address may also be written with capital letters
and with any number of leading zeros.
-/

namespace FrameRouter

namespace Mac

theorem byte?_renderPadded (byte : UInt8) :
    byte? (Digits.renderPadded 16 2 byte.toNat) = some byte := by
  have within : byte.toNat ≤ 255 := Nat.le_of_lt_succ byte.toNat_lt
  rw [byte?, Digits.read_renderPadded (by decide) (by decide) 2 within]
  exact congrArg some UInt8.ofNat_toNat

theorem ofBytes_parts (high : UInt16) (low : UInt32) :
    ofBytes (high >>> 8).toUInt8 high.toUInt8 (low >>> 24).toUInt8 (low >>> 16).toUInt8
      (low >>> 8).toUInt8 low.toUInt8 = ⟨high, low⟩ := by
  refine congrArg₂ Mac.mk ?_ ?_
  · apply UInt16.toNat_inj.mp
    have bounded := high.toNat_lt
    simp [Nat.shiftRight_eq_div_pow]
    omega
  · apply UInt32.toNat_inj.mp
    have bounded := low.toNat_lt
    simp [Nat.shiftRight_eq_div_pow]
    omega

theorem parse?_of_parts {text : String} {a b c d e f : UInt8}
    (parts : (Split.parts ':' text.toList).mapM byte? = some [a, b, c, d, e, f]) :
    parse? text = some (ofBytes a b c d e f) := by
  rw [parse?, parts]

/-- An address is read from the text it is written as. -/
theorem parse?_render (mac : Mac) : parse? mac.render = some mac := by
  have whole : ∀ segment ∈ mac.bytes.map fun byte => Digits.renderPadded 16 2 byte.toNat,
      ':' ∉ segment := by
    refine List.forall_mem_map.mpr fun byte _ => ?_
    exact Digits.not_mem_renderPadded (by decide) (by decide) 2 byte.toNat rfl
  have parts := Split.parts_intercalate whole (by simp [bytes])
  have read := mapM_map_of_inverse byte?_renderPadded mac.bytes
  have whole : (Split.parts ':' mac.render.toList).mapM byte? = some mac.bytes := by
    rw [render, String.toList_ofList]
    exact (congrArg (List.mapM byte?) parts).trans read
  rw [parse?_of_parts whole, ofBytes_parts]

end Mac

namespace Ipv4

theorem byte?_render (byte : UInt8) : byte? (Digits.render 10 byte.toNat) = some byte := by
  have within : byte.toNat ≤ 255 := Nat.le_of_lt_succ byte.toNat_lt
  have short : (Digits.render 10 byte.toNat).length ≤ 3 :=
    Nat.toDigits_length 10 byte.toNat 3 (by decide) (by omega)
  have read := Digits.read_render (by decide : 1 < 10) (by decide) within
  obtain ⟨first, rest, digits, isDigit, zero⟩ := Json.exists_digits byte.toNat
  have unsigned : first ≠ '+' := by
    rintro rfl
    cases isDigit
  rw [digits] at short read ⊢
  have form : (first :: rest).length ≤ 3 ∧ (first :: rest).head? ≠ some '+' ∧
      ((first :: rest).head? = some '0' → (first :: rest).length = 1) := by
    refine ⟨short, by simpa using unsigned, fun leading => ?_⟩
    rw [(zero (Option.some.inj leading)).2]
    rfl
  rw [byte?, if_pos form, read]
  exact congrArg some UInt8.ofNat_toNat

/-- A byte has one decimal text. -/
theorem render_of_byte? {text : List Char} {byte : UInt8} (read : byte? text = some byte) :
    text = Digits.render 10 byte.toNat := by
  unfold byte? at read
  split at read
  · rename_i form
    obtain ⟨_, unsigned, zero⟩ := form
    split at read
    · rename_i value digits
      cases read
      cases text with
      | nil => cases digits
      | cons first rest =>
          have shortest : first = '0' → rest = [] := by
            rintro rfl
            simpa using zero rfl
          have written := Digits.render_of_read (by simpa using unsigned) shortest digits
          rw [UInt8.toNat_ofNat_of_lt' (Nat.lt_succ_of_le (Digits.le_of_read digits)), written]
    · cases read
  · cases read

theorem ofBytes_parts (bits : UInt32) :
    ofBytes (bits >>> 24).toUInt8 (bits >>> 16).toUInt8 (bits >>> 8).toUInt8 bits.toUInt8 =
      ⟨bits⟩ := by
  refine congrArg Ipv4.mk (UInt32.toNat_inj.mp ?_)
  have bounded := bits.toNat_lt
  simp [Nat.shiftRight_eq_div_pow]
  omega

theorem bytes_ofBytes (a b c d : UInt8) : (ofBytes a b c d).bytes = [a, b, c, d] := by
  have first := a.toNat_lt
  have second := b.toNat_lt
  have third := c.toNat_lt
  have fourth := d.toNat_lt
  have inside : ((a.toNat * 256 + b.toNat) * 256 + c.toNat) * 256 + d.toNat < 2 ^ 32 := by
    omega
  simp only [bytes, ofBytes, List.cons.injEq, and_true, ← UInt8.toNat_inj, UInt32.toNat_toUInt8,
    UInt32.toNat_shiftRight, Nat.shiftRight_eq_div_pow, UInt32.toNat_ofNat',
    UInt32.reduceToNat, Nat.reduceMod, Nat.mod_eq_of_lt inside]
  omega

theorem parse?_of_parts {text : String} {a b c d : UInt8}
    (parts : (Split.parts '.' text.toList).mapM byte? = some [a, b, c, d]) :
    parse? text = some (ofBytes a b c d) := by
  rw [parse?, parts]

/-- An address is read from the text it is written as. -/
theorem parse?_render (address : Ipv4) : parse? address.render = some address := by
  have whole : ∀ segment ∈ address.bytes.map fun byte => Digits.render 10 byte.toNat,
      '.' ∉ segment := by
    refine List.forall_mem_map.mpr fun byte _ => ?_
    exact Digits.not_mem_render (by decide) (by decide) byte.toNat rfl
  have parts := Split.parts_intercalate whole (by simp [bytes])
  have read := mapM_map_of_inverse byte?_render address.bytes
  have whole : (Split.parts '.' address.render.toList).mapM byte? = some address.bytes := by
    rw [render, String.toList_ofList]
    exact (congrArg (List.mapM byte?) parts).trans read
  rw [parse?_of_parts whole, ofBytes_parts]

/-- An address has one text. -/
theorem parse?_eq_some_iff {text : String} {address : Ipv4} :
    parse? text = some address ↔ text = address.render := by
  constructor
  · intro read
    unfold parse? at read
    split at read
    · rename_i a b c d all
      cases read
      have parts := eq_map_of_mapM render_of_byte? all
      have joined := Split.intercalate_parts '.' text.toList
      rw [parts] at joined
      rw [render, bytes_ofBytes, ← String.ofList_toList (s := text), ← joined]
      rfl
    · cases read
  · rintro rfl
    exact parse?_render address

end Ipv4

end FrameRouter
