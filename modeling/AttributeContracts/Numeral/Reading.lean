/-
# Reading decimal literals

A decimal literal has an optional sign, digits with at most one point among or
beside them, and an optional exponent. It stands for the number nearest to the
decimal it spells, so a literal of any length reads exactly.
-/

import AttributeContracts.Numeral.Double

namespace AttributeContracts.Numeral

/-- A sign in front of some characters: whether it is negative, and the rest. -/
def splitSign : List Char → Bool × List Char
  | '-' :: rest => (true, rest)
  | '+' :: rest => (false, rest)
  | rest => (false, rest)

/-- The digits in front of some characters, and the rest. -/
def splitDigits (cs : List Char) : List Char × List Char :=
  (cs.takeWhile Char.isDigit, cs.dropWhile Char.isDigit)

/-- The digits after a point, if one is in front. -/
def splitFraction : List Char → List Char × List Char
  | '.' :: rest => splitDigits rest
  | rest => ([], rest)

/-- The exponent that makes up all that is left, zero if nothing is. -/
def exponent? : List Char → Option Int
  | [] => some 0
  | mark :: rest =>
      if mark = 'e' ∨ mark = 'E' then
        let (negative, rest) := splitSign rest
        match splitDigits rest with
        | ([], _) => none
        | (ds, []) =>
            let magnitude : Int := Nat.ofDigitChars 10 ds 0
            some (if negative then -magnitude else magnitude)
        | _ => none
      else none

/-- The number that a decimal literal spells. -/
def decimal? (text : String) : Option Double := do
  let (negative, rest) := splitSign text.toList
  let (whole, rest) := splitDigits rest
  let (places, rest) := splitFraction rest
  let scale ← exponent? rest
  if whole.isEmpty && places.isEmpty then none
  else
    some (.ofDecimal negative (Nat.ofDigitChars 10 (whole ++ places) 0) (scale - places.length))

end AttributeContracts.Numeral
