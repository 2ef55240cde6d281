/-!
# Binary floating point

Every finite non-negative number of the 64-bit binary format is a whole
number of units of 2 ^ -1074.  Sums of units are exact, so rounding is a
question about naturals: a number is rounded to 53 significant bits, to the
nearest such number and on a tie to the one with an even last bit.
-/

namespace FrameRouter

/-- A finite non-negative binary64 number, counted in units of 2 ^ -1074. -/
structure Binary64 where
  units : Nat
deriving DecidableEq, Repr

namespace Binary64

/-- Units in the number one. -/
def unitsPerOne : Nat := Nat.pow 2 1074

/-- Significant bits of a number. -/
def precision : Nat := 53

/-- The distance between neighbouring numbers around a count of units. -/
def step (units : Nat) : Nat := Nat.pow 2 (Nat.log2 units + 1 - precision)

/-- Divide to the nearest natural, on a tie to the even one. -/
def divideEven (numerator denominator : Nat) : Nat :=
  let quotient := numerator / denominator
  let twice := 2 * (numerator % denominator)
  if denominator < twice ∨ (twice = denominator ∧ quotient % 2 = 1) then quotient + 1
  else quotient

/-- The number nearest to a quotient of units; `none` when it is too large. -/
def round? (numerator denominator : Nat) : Option Binary64 :=
  let grid := step (numerator / denominator)
  let units := divideEven numerator (denominator * grid) * grid
  if units < Nat.pow 2 1024 * unitsPerOne then some ⟨units⟩ else none

def zero : Binary64 := ⟨0⟩

/-- The number nearest to a natural. -/
def ofNat? (value : Nat) : Option Binary64 := round? (value * unitsPerOne) 1

def multiply? (left right : Binary64) : Option Binary64 :=
  round? (left.units * right.units) unitsPerOne

def divide? (left right : Binary64) : Option Binary64 :=
  if right.units = 0 then none else round? (left.units * unitsPerOne) right.units

def largestPower : Nat := 308

/-- Divide by a power of ten, the largest one as often as it fits. -/
def scaleDown? : Nat → Binary64 → Nat → Option Binary64
  | 0, value, _ => some value
  | fuel + 1, value, exponent =>
      if exponent ≤ largestPower then do
        value.divide? (← ofNat? (Nat.pow 10 exponent))
      else if value.units = 0 then
        some value
      else do
        scaleDown? fuel (← value.divide? (← ofNat? (Nat.pow 10 largestPower)))
          (exponent - largestPower)

/-- A significand times a power of ten, rounded after each operation; `none` when too large. -/
def ofDecimal? (significand : Nat) (exponent : Int) : Option Binary64 := do
  let value ← ofNat? significand
  if 0 ≤ exponent then
    if exponent.toNat ≤ largestPower then
      value.multiply? (← ofNat? (Nat.pow 10 exponent.toNat))
    else if significand = 0 then
      return value
    else
      none
  else
    scaleDown? (exponent.natAbs / largestPower + 2) value exponent.natAbs

end Binary64

end FrameRouter
