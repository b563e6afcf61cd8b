/-
# Texts from code units

An escape may spell only one half of a surrogate pair. A text is therefore
collected as numbers, each a code point or a half, and the halves are joined at
the end; a half without the other becomes the replacement character.
-/

namespace AttributeContracts.Text

/-- The value of a hexadecimal digit. -/
def hexDigit? (c : Char) : Option Nat :=
  if c.isDigit then some (c.toNat - '0'.toNat)
  else if 'a' ≤ c ∧ c ≤ 'f' then some (c.toNat - 'a'.toNat + 10)
  else if 'A' ≤ c ∧ c ≤ 'F' then some (c.toNat - 'A'.toNat + 10)
  else none

/-- The number that some hexadecimal digits spell. -/
def hexNumber? (cs : List Char) : Option Nat :=
  cs.foldlM (fun sum c => (hexDigit? c).map fun digit => 16 * sum + digit) 0

/-- The character that takes the place of half a surrogate pair. -/
def replacement : Char := '\uFFFD'

/-- Joins surrogate pairs. -/
def joinUnits : List Nat → List Char
  | [] => []
  | [unit] => [if 0xD800 ≤ unit ∧ unit < 0xE000 then replacement else Char.ofNat unit]
  | high :: low :: rest =>
      if 0xD800 ≤ high ∧ high < 0xDC00 ∧ 0xDC00 ≤ low ∧ low < 0xE000 then
        Char.ofNat (0x10000 + (high - 0xD800) * 0x400 + (low - 0xDC00)) :: joinUnits rest
      else if 0xD800 ≤ high ∧ high < 0xE000 then replacement :: joinUnits (low :: rest)
      else Char.ofNat high :: joinUnits (low :: rest)

/-- The number of code units of 16 bits that a character takes. -/
def unitCount (c : Char) : Nat := if c.toNat < 0x10000 then 1 else 2

/-- The number of code units of 16 bits that a text takes. -/
def unitLength : List Char → Nat
  | [] => 0
  | c :: rest => unitCount c + unitLength rest

end AttributeContracts.Text
