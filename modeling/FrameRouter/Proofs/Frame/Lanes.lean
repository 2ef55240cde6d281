import FrameRouter.Sink.Normalizer
import Mathlib.Data.Nat.Bitwise
import Mathlib.Tactic.IntervalCases
import Mathlib.Tactic.NormNum

/-!
# Lanes

Clearing the stale lanes of a word keeps the valid ones and sets the others to
zero.
-/

namespace FrameRouter

namespace Word

/-- One lane of the data; zero behind the first lanes of the given number. -/
def laneWithin (word : Word) (count place : Nat) : UInt8 :=
  if place < count then word.lanes.getD place 0 else 0

/-- The data with every lane but the first ones set to zero. -/
def keep (word : Word) (count : Nat) : UInt32 :=
  pack (word.laneWithin count 0) (word.laneWithin count 1) (word.laneWithin count 2)
    (word.laneWithin count 3)

end Word

/-- Masking the low bits of a number leaves a multiple of their power. -/
theorem land_mask {value width low : Nat} (bounded : value < 2 ^ width) (within : low ≤ width) :
    value &&& (2 ^ width - 2 ^ low) = value / 2 ^ low * 2 ^ low := by
  have mask : 2 ^ width - 2 ^ low = (2 ^ (width - low) - 1) <<< low := by
    rw [Nat.shiftLeft_eq, Nat.sub_mul, ← pow_add, Nat.sub_add_cancel within, one_mul]
  rw [mask, ← Nat.shiftLeft_eq, ← Nat.shiftRight_eq_div_pow]
  apply Nat.eq_of_testBit_eq
  intro place
  simp only [Nat.testBit_and, Nat.testBit_shiftLeft, Nat.testBit_two_pow_sub_one,
    Nat.testBit_shiftRight]
  by_cases above : low ≤ place
  · have back : low + (place - low) = place := Nat.add_sub_of_le above
    by_cases inside : place < width
    · have place_lt : place - low < width - low := by omega
      simp [above, back, place_lt]
    · have clear : value.testBit place = false :=
        Nat.testBit_eq_false_of_lt
          (bounded.trans_le (Nat.pow_le_pow_right (by decide) (Nat.le_of_not_lt inside)))
      simp [back, clear]
  · simp [above]

/-- A lane is a digit of the data to the base of 256. -/
theorem Word.toNat_lane (data : UInt32) (shift : UInt32) :
    (data >>> shift).toUInt8.toNat = data.toNat / 2 ^ (shift.toNat % 32) % 2 ^ 8 := by
  rw [UInt32.toNat_toUInt8, UInt32.toNat_shiftRight, Nat.shiftRight_eq_div_pow]

/-- The value of the data of which some first lanes are kept. -/
theorem Word.toNat_keep (word : Word) {count : Nat} (within : count ≤ laneCount) :
    (word.keep count).toNat =
      word.data.toNat / 2 ^ (8 * (laneCount - count)) * 2 ^ (8 * (laneCount - count)) := by
  have bounded : word.data.toNat < 2 ^ 32 := word.data.toNat_lt
  have first := toNat_lane word.data 24
  have second := toNat_lane word.data 16
  have third := toNat_lane word.data 8
  have fourth : word.data.toUInt8.toNat = word.data.toNat % 2 ^ 8 := UInt32.toNat_toUInt8 _
  simp only [UInt32.reduceToNat, Nat.reduceMod] at first second third
  unfold laneCount at within
  interval_cases count <;>
    simp [keep, pack, laneWithin, lanes, laneCount, first, second, third, fourth] <;>
    omega

/-- A word has no lanes behind the fourth. -/
theorem Word.keep_min (word : Word) (count : Nat) :
    word.keep (min count laneCount) = word.keep count := by
  simp [keep, laneWithin, laneCount]

/-- Clearing stale lanes keeps the valid ones. -/
theorem Normalizer.clearStale_eq (word : Word) :
    clearStale word = { word with data := word.keep word.bytes.toNat } := by
  rw [← word.keep_min]
  unfold clearStale
  congr 1
  have bounded : word.data.toNat < 2 ^ 32 := word.data.toNat_lt
  apply UInt32.toNat_inj.mp
  rw [Word.toNat_keep word (Nat.min_le_right _ _)]
  split
  · rename_i count
    rw [count]
    change 0 = word.data.toNat / 2 ^ 32 * 2 ^ 32
    omega
  · rename_i count
    rw [count, UInt32.toNat_and]
    exact land_mask bounded (by decide : 24 ≤ 32)
  · rename_i count
    rw [count, UInt32.toNat_and]
    exact land_mask bounded (by decide : 16 ≤ 32)
  · rename_i count
    rw [count, UInt32.toNat_and]
    exact land_mask bounded (by decide : 8 ≤ 32)
  · rename_i none one two three
    have all : min word.bytes.toNat laneCount = laneCount := by
      change _ ≠ _ at none one two three
      unfold laneCount
      omega
    rw [all]
    change word.data.toNat = word.data.toNat / 1 * 1
    omega

end FrameRouter
