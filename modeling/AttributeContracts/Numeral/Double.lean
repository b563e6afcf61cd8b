/-
# Double-precision numbers as exact binary fractions

A number is not a word of bits here but the value those bits stand for: not a
number, an infinity, or a signed mantissa times a power of two. Every value has
one canonical form (zero, or an odd mantissa), so two numbers are the same
exactly when they are equal terms: the two zeros differ and not-a-number equals
itself. Only reading and identity are modelled; there is no arithmetic.
-/

namespace AttributeContracts

/-- A double-precision number by its value. In canonical form a finite mantissa
is odd, or is zero with exponent zero. -/
inductive Double where
  | nan
  | infinite (negative : Bool)
  | finite (negative : Bool) (mantissa : Nat) (exponent : Int)
deriving DecidableEq, Repr

namespace Double

/-- Bits of precision of a mantissa. -/
def precision : Nat := 53

/-- The exponent of the least positive number; every finite number is a whole
multiple of two to this power. -/
def leastExponent : Int := -1074

/-- Finite numbers stay below two to this power. -/
def exponentLimit : Int := 1024

/-- Moves factors of two from the mantissa to the exponent. The fuel is a bound
on the number of halvings, and the mantissa itself is always enough. -/
private def oddPart : Nat → Nat → Int → Nat × Int
  | 0, mantissa, exponent => (mantissa, exponent)
  | fuel + 1, mantissa, exponent =>
      if mantissa % 2 = 0 then oddPart fuel (mantissa / 2) (exponent + 1)
      else (mantissa, exponent)

/-- The finite number `mantissa * 2 ^ exponent` in canonical form. -/
def canonical (negative : Bool) (mantissa : Nat) (exponent : Int) : Double :=
  if mantissa = 0 then .finite negative 0 0
  else
    let (odd, shifted) := oddPart (mantissa.log2 + 1) mantissa exponent
    .finite negative odd shifted

/-- Positive and negative zero are different numbers. -/
def zero (negative : Bool) : Double := .finite negative 0 0

/-- The quotient `numerator / denominator` rounded to a whole number; a half
goes to the even neighbour. -/
def roundedQuotient (numerator denominator : Nat) : Nat :=
  let quotient := numerator / denominator
  let twice := 2 * (numerator % denominator)
  if denominator < twice ∨ (twice = denominator ∧ quotient % 2 = 1) then quotient + 1
  else quotient

/-- `value * 2 ^ power` as a fraction, kept in whole numbers. -/
private def scaled (numerator denominator : Nat) (power : Int) : Nat × Nat :=
  if 0 ≤ power then (numerator * Nat.pow 2 power.toNat, denominator)
  else (numerator, denominator * Nat.pow 2 (-power).toNat)

/-- The greatest power of two that is at most a positive fraction. -/
private def binaryOrder (numerator denominator : Nat) : Int :=
  let guess : Int := (numerator.log2 : Int) - (denominator.log2 : Int)
  let (above, below) := scaled numerator denominator (-guess)
  if above < below then guess - 1 else guess

/-- The number nearest to a fraction, ties to the even mantissa. The grid is as
fine as the precision allows but never finer than the least exponent; what
rounds to the limit or beyond is infinite. -/
def ofRatio (negative : Bool) (numerator denominator : Nat) : Double :=
  if numerator = 0 then zero negative
  else
    let grid := max (binaryOrder numerator denominator - (precision - 1 : Int)) leastExponent
    let (above, below) := scaled numerator denominator (-grid)
    let mantissa := roundedQuotient above below
    if mantissa = 0 then zero negative
    else if exponentLimit ≤ grid + (mantissa.log2 : Int) then .infinite negative
    else canonical negative mantissa grid

/-- The number nearest to `digits * 10 ^ exponent`. Decimals far outside the
range are settled by their order of magnitude, so a huge exponent costs nothing. -/
def ofDecimal (negative : Bool) (digits : Nat) (exponent : Int) : Double :=
  let order : Int := exponent + ((Nat.toDigits 10 digits).length : Int)
  if digits = 0 then zero negative
  else if 400 < order then .infinite negative
  else if order < -400 then zero negative
  else if 0 ≤ exponent then ofRatio negative (digits * Nat.pow 10 exponent.toNat) 1
  else ofRatio negative digits (Nat.pow 10 (-exponent).toNat)

/-- The number nearest to a natural number. -/
def ofNat (n : Nat) : Double := ofRatio false n 1

/-- The value as an integer, if it is one. -/
def toInt? : Double → Option Int
  | .finite negative mantissa exponent =>
      if 0 ≤ exponent then
        let magnitude := Int.ofNat (mantissa * Nat.pow 2 exponent.toNat)
        some (if negative then -magnitude else magnitude)
      else none
  | _ => none

/-- The greatest whole number up to which every whole number is represented. -/
def maxSafeInteger : Nat := Nat.pow 2 precision - 1

end Double

end AttributeContracts
