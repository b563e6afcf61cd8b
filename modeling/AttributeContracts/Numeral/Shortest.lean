/-
# The fewest decimal digits that read back

A finite positive number is surrounded by an interval of reals that round to
it. Among the decimals in that interval this module picks one with the fewest
digits, and among those the nearest to the number. Both tests are made in exact
whole-number arithmetic: on the grid of `n`-digit decimals only the two
neighbours of the number can matter, because if any grid point lies in the
interval then one of these does.
-/

import AttributeContracts.Numeral.Double

namespace AttributeContracts.Numeral

/-- The decimal `digits * 10 ^ exponent`, its digits without trailing zeros. -/
structure Decimal where
  digits : Nat
  exponent : Int
deriving DecidableEq, Repr

/-- A number and the interval that rounds to it, over one common denominator.
The ends belong to the interval when the mantissa is even. -/
structure Interval where
  value : Nat
  low : Nat
  high : Nat
  denominator : Nat
  closed : Bool

/-- The rounding interval of a canonical positive number. The mantissa is first
widened to full precision; below a power of two the grid is twice as fine, so
the lower half-gap is then only half as wide. -/
def Interval.of (mantissa : Nat) (exponent : Int) : Interval :=
  let room : Int := (Double.precision : Int) - 1 - (mantissa.log2 : Int)
  let widened := min room (exponent - Double.leastExponent)
  let full := mantissa * Nat.pow 2 widened.toNat
  let quarter := exponent - (widened.toNat : Int) - 2
  let lowGap := if full = Nat.pow 2 (Double.precision - 1) ∧ Double.leastExponent < quarter + 2
    then 1 else 2
  let factor := Nat.pow 2 quarter.toNat
  { value := 4 * full * factor
    low := (4 * full - lowGap) * factor
    high := (4 * full + 2) * factor
    denominator := Nat.pow 2 (-quarter).toNat
    closed := full % 2 = 0 }

/-- The decimal order: the least `k` for which the value is below `10 ^ k`. -/
def Interval.order (i : Interval) : Int :=
  if i.denominator ≤ i.value then
    ((Nat.toDigits 10 (i.value / i.denominator)).length : Int)
  else
    let reciprocal := (i.denominator + i.value - 1) / i.value
    if reciprocal ≤ 1 then 1
    else 1 - ((Nat.toDigits 10 (reciprocal - 1)).length : Int)

/-- Whether `count * 10 ^ power` lies in the interval. -/
def Interval.contains (i : Interval) (count : Nat) (power : Int) : Bool :=
  let point := count * i.denominator * Nat.pow 10 power.toNat
  let scale := Nat.pow 10 (-power).toNat
  if i.closed then i.low * scale ≤ point && point ≤ i.high * scale
  else i.low * scale < point && point < i.high * scale

/-- Of the value's two neighbours on the grid of multiples of `10 ^ power`, the
one in the interval; of two, the nearer, and the even one when both are as near. -/
def Interval.neighbour? (i : Interval) (power : Int) : Option Nat :=
  let unit := i.denominator * Nat.pow 10 power.toNat
  let value := i.value * Nat.pow 10 (-power).toNat
  let below := value / unit
  let remainder := value % unit
  match i.contains below power && below ≠ 0, i.contains (below + 1) power with
  | true, false => some below
  | false, true => some (below + 1)
  | true, true =>
      if 2 * remainder < unit then some below
      else if unit < 2 * remainder then some (below + 1)
      else if below % 2 = 0 then some below
      else some (below + 1)
  | false, false => none

/-- Drops trailing zeros; the fuel bounds their number. -/
private def trimmed : Nat → Nat → Int → Decimal
  | 0, digits, exponent => ⟨digits, exponent⟩
  | fuel + 1, digits, exponent =>
      if digits % 10 = 0 ∧ digits ≠ 0 then trimmed fuel (digits / 10) (exponent + 1)
      else ⟨digits, exponent⟩

/-- The shortest decimal that reads back as `mantissa * 2 ^ exponent`, which has
to be positive. Grids are tried from coarse to fine, one digit more each time;
seventeen digits always suffice, so the search never comes back empty. -/
def shortest (mantissa : Nat) (exponent : Int) : Decimal :=
  let interval := Interval.of mantissa exponent
  let coarsest := interval.order - 1
  let found := (List.range 18).findSome? fun (finer : Nat) =>
    let power := coarsest - finer
    (interval.neighbour? power).map fun digits => trimmed 20 digits power
  found.getD ⟨0, 0⟩

end AttributeContracts.Numeral
