import FrameRouter.Decimal.Binary64
import FrameRouter.Text.Digits

/-!
# Shortest decimals

A binary number is written with the fewest decimal digits that identify it
among the binary numbers, and with the nearest such digits.  How the digits
are laid out is a choice of the report that prints them.
-/

namespace FrameRouter

/-- The number `digits * 10 ^ exponent`. -/
structure Decimal where
  digits : Nat
  exponent : Int
deriving DecidableEq, Repr

namespace Binary64

/-- Four times the bounds of the reals that round to the number, in units. -/
def bounds (value : Binary64) : Nat × Nat :=
  let grid := step value.units
  let isPower := value.units = Nat.pow 2 (Nat.log2 value.units)
  let below := if grid ≠ 1 ∧ isPower then grid / 2 else grid
  (4 * value.units - 2 * below, 4 * value.units + 2 * grid)

/-- Whether a count of quarter units, as a quotient, rounds to the number. -/
def readsBack (value : Binary64) (numerator denominator : Nat) : Bool :=
  let (lower, upper) := value.bounds
  if (value.units / step value.units) % 2 = 0 then
    lower * denominator ≤ numerator ∧ numerator ≤ upper * denominator
  else
    lower * denominator < numerator ∧ numerator < upper * denominator

/-- The digits on the grid of a power of ten that read back, the nearer of two. -/
def digitsOnGrid? (value : Binary64) (exponent : Int) : Option Nat :=
  let scale := Nat.pow 10 (-exponent).toNat
  let grid := unitsPerOne * Nat.pow 10 exponent.toNat
  let below := value.units * scale / grid
  let fits := fun digits => value.readsBack (4 * digits * grid) scale
  match fits below && below ≠ 0, fits (below + 1) with
  | false, false => none
  | true, false => some below
  | false, true => some (below + 1)
  | true, true =>
      let twice := 2 * (value.units * scale - below * grid)
      some (if grid < twice ∨ (twice = grid ∧ below % 2 = 1) then below + 1 else below)

/-- Look for digits on ever finer grids. -/
def shortestFrom (value : Binary64) : Nat → Int → Decimal
  | 0, exponent => ⟨value.units * Nat.pow 10 (-exponent).toNat / unitsPerOne, exponent⟩
  | fuel + 1, exponent =>
      match value.digitsOnGrid? exponent with
      | some digits => ⟨digits, exponent⟩
      | none => shortestFrom value fuel (exponent - 1)

/-- The shortest decimal of a number, without trailing zeros. -/
def shortest (value : Binary64) : Decimal :=
  if value.units = 0 then ⟨0, 0⟩ else shortestFrom value 700 309

end Binary64

/-- How a decimal is laid out. -/
structure DecimalLayout where
  /-- Least exponent of the leading digit that is written positionally. -/
  leastPositional : Int
  /-- Greatest exponent of the leading digit that is written positionally. -/
  greatestPositional : Int
  /-- A plus sign stands in front of an exponent that is not negative. -/
  signedExponent : Bool

namespace DecimalLayout

/-- Digits with a point behind the first, and an exponent. -/
def scientific (layout : DecimalLayout) (digits : List Char) (leading : Int) : List Char :=
  let mantissa :=
    match digits with
    | first :: second :: rest => first :: '.' :: second :: rest
    | _ => digits
  let sign := if leading < 0 then ['-'] else if layout.signedExponent then ['+'] else []
  mantissa ++ 'e' :: sign ++ Digits.render 10 leading.natAbs

/-- Digits around a point, with at least one digit on each side of it. -/
def positional (digits : List Char) (leading : Int) : List Char :=
  if leading < 0 then
    ['0', '.'] ++ List.replicate (leading.natAbs - 1) '0' ++ digits
  else
    let whole := leading.toNat + 1
    let padded := digits ++ List.replicate (whole - digits.length) '0'
    let rest := padded.drop whole
    padded.take whole ++ '.' :: if rest.isEmpty then ['0'] else rest

def render (layout : DecimalLayout) (decimal : Decimal) : List Char :=
  let digits := Digits.render 10 decimal.digits
  let leading := decimal.exponent + digits.length - 1
  if layout.leastPositional ≤ leading ∧ leading ≤ layout.greatestPositional then
    positional digits leading
  else
    layout.scientific digits leading

end DecimalLayout

end FrameRouter
