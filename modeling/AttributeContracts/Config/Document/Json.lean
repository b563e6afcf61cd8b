/-
# Documents written in JSON

Reads the JSON grammar strictly: no trailing commas, no leading zeros, no
control characters inside texts, nothing after the value but blanks. A member
that is written twice keeps both assignments, so the later one counts.

A text is read as code units first, because an escape may give only one half of
a surrogate pair; the halves are joined at the end, and a half without the other
becomes the replacement character.
-/

import AttributeContracts.Config.Document
import AttributeContracts.Text.Units

namespace AttributeContracts.Document.Json

/-- The four characters that may stand between tokens. -/
def isBlank (c : Char) : Bool := c = ' ' || c = '\t' || c = '\n' || c = '\r'

def skipBlanks (cs : List Char) : List Char := cs.dropWhile isBlank

/-- The character of an escape by one letter. -/
def letterEscape? : Char → Option Char
  | '"' => some '"'
  | '\\' => some '\\'
  | '/' => some '/'
  | 'b' => some '\x08'
  | 'f' => some '\x0c'
  | 'n' => some '\n'
  | 'r' => some '\r'
  | 't' => some '\t'
  | _ => none

/-- The code units of a text up to its closing quote, and what follows it. -/
def units : List Char → Option (List Nat × List Char)
  | [] => none
  | '"' :: rest => some ([], rest)
  | '\\' :: 'u' :: a :: b :: c :: d :: rest => do
      let unit ← Text.hexNumber? [a, b, c, d]
      let (others, after) ← units rest
      pure (unit :: others, after)
  | '\\' :: letter :: rest => do
      let c ← letterEscape? letter
      let (others, after) ← units rest
      pure (c.toNat :: others, after)
  | c :: rest => do
      if c.toNat < 0x20 ∨ c = '\\' then none
      else
        let (others, after) ← units rest
        pure (c.toNat :: others, after)

/-- The digits in front of some characters, and what follows them. -/
def digits (cs : List Char) : List Char × List Char :=
  (cs.takeWhile Char.isDigit, cs.dropWhile Char.isDigit)

/-- An exponent, zero if there is none. -/
def exponent (cs : List Char) : Option (Int × List Char) :=
  let signed (negative : Bool) (rest : List Char) : Option (Int × List Char) :=
    match digits rest with
    | ([], _) => none
    | (ds, after) =>
        let magnitude : Int := Nat.ofDigitChars 10 ds 0
        some (if negative then -magnitude else magnitude, after)
  match cs with
  | 'e' :: '-' :: rest | 'E' :: '-' :: rest => signed true rest
  | 'e' :: '+' :: rest | 'E' :: '+' :: rest => signed false rest
  | 'e' :: rest | 'E' :: rest => signed false rest
  | _ => some (0, cs)

/-- A fraction without its point, empty if there is none. -/
def fraction (cs : List Char) : Option (List Char × List Char) :=
  match cs with
  | '.' :: rest =>
      match digits rest with
      | ([], _) => none
      | found => some found
  | _ => some ([], cs)

/-- A number without its sign. -/
def magnitude (negative : Bool) (cs : List Char) : Option (Document × List Char) :=
  match digits cs with
  | ([], _) => none
  | ('0' :: _ :: _, _) => none
  | (whole, rest) => do
      let (places, rest) ← fraction rest
      let (scale, rest) ← exponent rest
      let digits := Nat.ofDigitChars 10 (whole ++ places) 0
      pure (.number (.ofDecimal negative digits (scale - places.length)), rest)

mutual

/-- A value and what follows it. The fuel bounds the depth of the recursion and
is never short when it exceeds twice the number of characters. -/
def value : Nat → List Char → Option (Document × List Char)
  | 0, _ => none
  | fuel + 1, cs =>
      match skipBlanks cs with
      | 'n' :: 'u' :: 'l' :: 'l' :: rest => some (.null, rest)
      | 't' :: 'r' :: 'u' :: 'e' :: rest => some (.bool true, rest)
      | 'f' :: 'a' :: 'l' :: 's' :: 'e' :: rest => some (.bool false, rest)
      | '"' :: rest => do
          let (found, rest) ← units rest
          pure (.text (.ofList (Text.joinUnits found)), rest)
      | '[' :: rest => do
          let (items, rest) ← (match skipBlanks rest with
            | ']' :: rest => some ([], rest)
            | _ => items fuel rest)
          pure (.list items, rest)
      | '\x7b' :: rest => do
          let (members, rest) ← (match skipBlanks rest with
            | '\x7d' :: rest => some ([], rest)
            | _ => members fuel rest)
          pure (.object members, rest)
      | '-' :: rest => magnitude true rest
      | rest => magnitude false rest

/-- The items of a list up to its closing bracket. -/
def items : Nat → List Char → Option (List Document × List Char)
  | 0, _ => none
  | fuel + 1, cs => do
      let (item, rest) ← value fuel cs
      match skipBlanks rest with
      | ']' :: rest => pure ([item], rest)
      | ',' :: rest =>
          let (others, rest) ← items fuel rest
          pure (item :: others, rest)
      | _ => none

/-- The members of an object up to its closing brace. -/
def members : Nat → List Char → Option (List (String × Document) × List Char)
  | 0, _ => none
  | fuel + 1, cs =>
      match skipBlanks cs with
      | '"' :: rest => do
          let (name, rest) ← units rest
          match skipBlanks rest with
          | ':' :: rest =>
              let (item, rest) ← value fuel rest
              let member := (String.ofList (Text.joinUnits name), item)
              match skipBlanks rest with
              | '\x7d' :: rest => pure ([member], rest)
              | ',' :: rest =>
                  let (others, rest) ← members fuel rest
                  pure (member :: others, rest)
              | _ => none
          | _ => none
      | _ => none

end

end AttributeContracts.Document.Json

namespace AttributeContracts

/-- The document that a JSON text spells. -/
def Document.ofJson? (text : String) : Option Document := do
  let cs := text.toList
  let (document, rest) ← Json.value (2 * cs.length + 2) cs
  if (Json.skipBlanks rest).isEmpty then some document else none

end AttributeContracts
