/-
# YAML scalars

What the text of a scalar stands for. Plain text is recognised by its form:
nothing, truth values, whole numbers in three bases, other numbers, and texts.
The older version of the format recognises more words and more ways to write
numbers, besides dates and a mark for merging. A tag asks for one kind of value;
if the text has not its form, the scalar stays a text.
-/

import AttributeContracts.Numeral.Reading
import AttributeContracts.Numeral.Text
import AttributeContracts.Text.Units

namespace AttributeContracts.Yaml

/-- The versions of the format that differ in what plain text stands for. -/
inductive Version where
  | current
  | older
deriving DecidableEq, Repr

/-- What a scalar stands for. -/
inductive Scalar where
  | null
  | bool (b : Bool)
  | number (n : Double)
  | text (s : String)
  /-- Bytes, of which there are so many. -/
  | bytes (count : Nat)
  | date
  /-- The mark of a key whose value is merged into the map. -/
  | mergeMark
deriving DecidableEq, Repr

namespace Scalar

/-- Equality of scalars as keys: numbers by value, and not-a-number, bytes, dates
and merge marks equal to nothing. -/
def sameKey : Scalar → Scalar → Bool
  | .number .nan, _ => false
  | .number (.finite _ 0 _), .number (.finite _ 0 _) => true
  | .bytes _, _ | .date, _ | .mergeMark, _ => false
  | a, b => a = b

/-- Whether all characters pass a test and there is at least one. -/
def areAll (test : Char → Bool) (cs : List Char) : Bool := !cs.isEmpty && cs.all test

/-- The number that some digits spell in a base. -/
def digitsValue (base : Nat) (cs : List Char) : Nat :=
  cs.foldl (fun sum c => base * sum + (Text.hexDigit? c).getD 0) 0

def isOctal (c : Char) : Bool := '0' ≤ c && c ≤ '7'

def isHex (c : Char) : Bool := (Text.hexDigit? c).isSome

def isBinary (c : Char) : Bool := c = '0' || c = '1'

private def whole (negative : Bool) (n : Nat) : Double := .ofRatio negative n 1

/-- A decimal literal with a point or an exponent. -/
def isFraction (cs : List Char) : Bool := cs.any fun c => c = '.' || c = 'e' || c = 'E'

def nullWords : List String := ["", "~", "null", "Null", "NULL"]

def trueWords : Version → List String
  | .current => ["true", "True", "TRUE"]
  | .older => ["true", "True", "TRUE", "y", "Y", "yes", "Yes", "YES", "on", "On", "ON"]

def falseWords : Version → List String
  | .current => ["false", "False", "FALSE"]
  | .older => ["false", "False", "FALSE", "n", "N", "no", "No", "NO", "off", "Off", "OFF"]

def infinityWords : List String := [".inf", ".Inf", ".INF"]

def nanWords : List String := [".nan", ".NaN", ".NAN"]

/-- The truth value of a word. -/
def truth? (version : Version) (s : String) : Option Bool :=
  if (trueWords version).contains s then some true
  else if (falseWords version).contains s then some false
  else none

/-- A whole number in one of the bases. -/
def integer? (version : Version) (s : String) : Option Double :=
  match version with
  | .current =>
      match s.toList with
      | '0' :: 'o' :: ds =>
          if areAll isOctal ds then some (whole false (digitsValue 8 ds)) else none
      | '0' :: 'x' :: ds =>
          if areAll isHex ds then some (whole false (digitsValue 16 ds)) else none
      | cs =>
          let (negative, ds) := Numeral.splitSign cs
          if areAll Char.isDigit ds then some (whole negative (digitsValue 10 ds)) else none
  | .older =>
      let (negative, cs) := Numeral.splitSign s.toList
      let read (base : Nat) (test : Char → Bool) (ds : List Char) : Option Double :=
        if areAll (fun c => test c || c = '_') ds then
          some (whole negative (digitsValue base (ds.filter (· ≠ '_'))))
        else none
      match cs with
      | '0' :: 'b' :: ds => read 2 isBinary ds
      | '0' :: 'x' :: ds => read 16 isHex ds
      | '0' :: d :: ds => (read 8 isOctal (d :: ds)).or (read 10 Char.isDigit ('0' :: d :: ds))
      | d :: ds => if d.isDigit then read 10 Char.isDigit (d :: ds) else none
      | [] => none

/-- Sexagesimal numbers of the older version: fields of at most two digits, the
first one of any length and the last one with a fraction perhaps. -/
def sexagesimal? (s : String) : Option Double :=
  let (negative, cs) := Numeral.splitSign s.toList
  let body := cs.takeWhile (· ≠ '.')
  let places := (cs.drop body.length).drop 1
  let fields := (String.ofList body).splitOn ":"
  let isField (field : String) : Bool :=
    match field.toList with
    | [d] => d.isDigit
    | [d, e] => '0' ≤ d && d ≤ '5' && e.isDigit
    | _ => false
  match fields with
  | first :: second :: more =>
      if areAll (fun c => c.isDigit || c = '_') first.toList
          && first.toList.head?.any Char.isDigit
          && (second :: more).all isField
          && places.all (fun c => c.isDigit || c = '_') then
        let sum := fields.foldl (fun sum field =>
          60 * sum + digitsValue 10 (field.toList.filter (· ≠ '_'))) 0
        let ds := places.filter (· ≠ '_')
        some (.ofDecimal negative (sum * Nat.pow 10 ds.length + digitsValue 10 ds) (-ds.length))
      else none
  | _ => none

/-- A number that is not written as a whole number. -/
def fraction? (version : Version) (s : String) : Option Double :=
  let (negative, unsigned) := Numeral.splitSign s.toList
  if infinityWords.contains (String.ofList unsigned) then some (.infinite negative)
  else if nanWords.contains s then some .nan
  else
    match version with
    | .current => if isFraction s.toList then Numeral.decimal? s else none
    | .older =>
        let scale := unsigned.dropWhile fun c => c ≠ 'e' && c ≠ 'E'
        if !isFraction unsigned || !unsigned.head?.any Char.isDigit || scale.contains '_' then
          none
        else Numeral.decimal? (String.ofList (s.toList.filter (· ≠ '_')))

/-- Cuts off so many digits, as many as there are. -/
def cutDigits (least most : Nat) (cs : List Char) : Option (List Char) :=
  let found := (cs.takeWhile Char.isDigit).length
  if least ≤ found && found ≤ most then some (cs.drop found) else none

/-- Cuts off one character. -/
def cutMark (c : Char) (cs : List Char) : Option (List Char) :=
  if cs.head? = some c then some (cs.drop 1) else none

/-- Whether digits spell a number of hours. -/
def isHours : List Char → Bool
  | [d] => d.isDigit
  | [d, e] => '0' ≤ d && d ≤ '2' && e.isDigit
  | _ => false

/-- A time zone: a letter, or a sign with hours and perhaps minutes. -/
def isZone : List Char → Bool
  | ['Z'] => true
  | sign :: zone =>
      let isMinutes (cs : List Char) : Bool := cs.length = 2 && cs.all Char.isDigit
      let hours := zone.takeWhile (· ≠ ':')
      (sign = '+' || sign = '-') &&
        (match zone.drop hours.length with
          | [] =>
              isHours hours || isHours (hours.take (hours.length - 2))
                && isMinutes (hours.drop (hours.length - 2))
          | _ :: minutes => isHours hours && isMinutes minutes)
  | [] => false

/-- A time of day and perhaps a time zone. -/
def isTime (cs : List Char) : Bool :=
  let seconds := do
    cutDigits 1 2 (← cutMark ':' (← cutDigits 1 2 (← cutMark ':' (← cutDigits 1 2 cs))))
  let rest := match seconds with
    | some ('.' :: places) => cutDigits 1 places.length places
    | other => other
  match rest with
  | none => false
  | some [] => true
  | some rest => isZone (rest.dropWhile fun c => c = ' ' || c = '\t')

/-- A date: year, month and day, and perhaps a time. -/
def isDate (s : String) : Bool :=
  let date := do
    cutDigits 1 2
      (← cutMark '-' (← cutDigits 1 2 (← cutMark '-' (← cutDigits 4 4 s.toList))))
  match date with
  | none => false
  | some [] => true
  | some ('t' :: time) | some ('T' :: time) => isTime time
  | some rest =>
      let time := rest.dropWhile fun c => c = ' ' || c = '\t'
      time.length < rest.length && isTime time

/-- What plain text stands for. -/
def ofPlain (version : Version) (atKey : Bool) (s : String) : Scalar :=
  if nullWords.contains s then .null
  else
    match truth? version s, integer? version s, fraction? version s with
    | some b, _, _ => .bool b
    | none, some n, _ => .number n
    | none, none, some n => .number n
    | none, none, none =>
        if version = .older then
          match sexagesimal? s with
          | some n => .number n
          | none =>
              if atKey && s = "<<" then .mergeMark
              else if isDate s then .date
              else .text s
        else .text s

/-- The number of bytes that a text spells in base 64, blanks aside. -/
def byteCount? (s : String) : Option Nat :=
  let cs := s.toList.filter fun c => !([' ', '\t', '\n', '\r', '\x0c'].contains c)
  let body :=
    if cs.length % 4 = 0 then
      if ['=', '='].isSuffixOf cs then cs.take (cs.length - 2)
      else if ['='].isSuffixOf cs then cs.take (cs.length - 1)
      else cs
    else cs
  if body.length % 4 ≠ 1 && body.all fun c => c.isAlphanum || c = '+' || c = '/' then
    some (body.length * 6 / 8)
  else none

/-- The namespace of the tags that the format itself defines. -/
def tagNamespace : String := "tag:yaml.org,2002:"

/-- What text under a tag stands for. There is no result when the tag is known
and the text cannot be read under it at all; under any other tag it stays text. -/
def ofTagged? (version : Version) (tag s : String) : Option Scalar :=
  let kept := some (Scalar.text s)
  let found (value : Option Scalar) : Option Scalar := some (value.getD (.text s))
  if tag = tagNamespace ++ "null" then found (if nullWords.contains s then some .null else none)
  else if tag = tagNamespace ++ "bool" then found ((truth? version s).map .bool)
  else if tag = tagNamespace ++ "int" then
    found (((integer? version s).or
      (if version = .older && !s.contains '.' then sexagesimal? s else none)).map .number)
  else if tag = tagNamespace ++ "float" then
    found (((fraction? version s).or
      (if version = .older && s.contains '.' then sexagesimal? s else none)).map .number)
  else if tag = tagNamespace ++ "binary" then (byteCount? s).map .bytes
  else if tag = tagNamespace ++ "timestamp" then
    if isDate s then some .date else if version = .older then kept else none
  else if tag = tagNamespace ++ "merge" then
    if version = .older && s ≠ "<<" then kept else some .mergeMark
  else kept

/-- What a scalar reads as when it is a key. -/
def keyText : Scalar → String
  | .null => ""
  | .bool b => if b then "true" else "false"
  | .number n => n.text
  | .text s => s
  | .bytes count => "bytes " ++ toString count
  | .date => "date"
  | .mergeMark => "<<"

end Scalar

end AttributeContracts.Yaml
