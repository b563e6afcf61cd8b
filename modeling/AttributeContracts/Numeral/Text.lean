/-
# Numbers as text

The digits come from the shortest decimal that reads back; this module only
decides where they go. Positional notation covers decimal orders from -5 to 21,
anything else has one digit before the point and a signed exponent. Both zeros
are written alike, so text does not tell every two numbers apart.
-/

import AttributeContracts.Numeral.Shortest

namespace AttributeContracts.Numeral

/-- The choices that are left once the digits are known. -/
structure Layout where
  /-- The least decimal order written positionally. -/
  leastOrder : Int
  /-- The greatest decimal order written positionally. -/
  greatestOrder : Int
  exponentMark : String
  positiveSign : String
  notANumber : String
  infinity : String

/-- Orders from -5 to 21 are positional, an exponent always has a sign, and the
non-finite numbers are spelled out. -/
def Layout.standard : Layout where
  leastOrder := -5
  greatestOrder := 21
  exponentMark := "e"
  positiveSign := "+"
  notANumber := "NaN"
  infinity := "Infinity"

private def zeros (n : Nat) : String := "".pushn '0' n

/-- A positive decimal under a layout. Its order is the position of the point,
counted from the first digit. -/
def Layout.positive (layout : Layout) (d : Decimal) : String :=
  let digits := Nat.toDigits 10 d.digits
  let count : Int := digits.length
  let order := count + d.exponent
  if count ≤ order ∧ order ≤ layout.greatestOrder then
    String.ofList digits ++ zeros (order - count).toNat
  else if 0 < order ∧ order ≤ layout.greatestOrder then
    String.ofList (digits.take order.toNat) ++ "." ++ String.ofList (digits.drop order.toNat)
  else if layout.leastOrder ≤ order ∧ order ≤ 0 then
    "0." ++ zeros (-order).toNat ++ String.ofList digits
  else
    let exponent := order - 1
    let fraction := match digits.drop 1 with
      | [] => ""
      | rest => "." ++ String.ofList rest
    let sign := if 0 ≤ exponent then layout.positiveSign else "-"
    String.ofList (digits.take 1) ++ fraction ++ layout.exponentMark ++ sign
      ++ toString exponent.natAbs

end AttributeContracts.Numeral

namespace AttributeContracts.Double

/-- A number as text. The sign of zero is not written. -/
def text : Double → String
  | .nan => Numeral.Layout.standard.notANumber
  | .infinite negative => (if negative then "-" else "") ++ Numeral.Layout.standard.infinity
  | .finite negative mantissa exponent =>
      if mantissa = 0 then "0"
      else (if negative then "-" else "")
        ++ Numeral.Layout.standard.positive (Numeral.shortest mantissa exponent)

end AttributeContracts.Double
