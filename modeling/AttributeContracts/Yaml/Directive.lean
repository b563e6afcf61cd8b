/-
# Directives of a YAML stream

The lines before a document that set the version of the format and abbreviate
tags. A directive that is not known does nothing; a known one that has not its
form makes the stream malformed.
-/

import AttributeContracts.Yaml.Scalar
import AttributeContracts.Yaml.Token

namespace AttributeContracts.Yaml

/-- What the directives in front of a document say. -/
structure Directives where
  version : Version
  /-- What stands for what at the start of a tag; the last entry counts. -/
  handles : List (String × String)
deriving DecidableEq, Repr

namespace Directives

/-- What holds without directives. -/
def standard : Directives := ⟨.current, [("!!", Scalar.tagNamespace)]⟩

/-- The words of a line. -/
def words (line : List Char) : List String :=
  let line := line.map fun c => if c = '\t' then ' ' else c
  ((String.ofList line).splitOn " ").filter (· ≠ "")

/-- Whether a word looks like a version, known or not. -/
def isVersion (word : String) : Bool :=
  match word.splitOn "." with
  | [major, minor] =>
      Scalar.areAll Char.isDigit major.toList && Scalar.areAll Char.isDigit minor.toList
  | _ => false

/-- Takes a directive into account. -/
def add? (directives : Directives) (line : List Char) : Option Directives :=
  match words line with
  | "%TAG" :: parts =>
      match parts with
      | [handle, expansion] =>
          some { directives with handles := directives.handles ++ [(handle, expansion)] }
      | _ => none
  | "%YAML" :: parts =>
      match parts with
      | ["1.1"] => some { directives with version := .older }
      | ["1.2"] => some { directives with version := .current }
      | [word] => if isVersion word then some directives else none
      | _ => none
  | _ => some directives

/-- Undoes percent escapes, which have to spell well-formed text. -/
def unescape? (cs : List Char) : Option String :=
  let rec bytes : List Char → Option (List UInt8)
    | '%' :: a :: b :: rest => do
        let byte ← Text.hexNumber? [a, b]
        let others ← bytes rest
        pure (byte.toUInt8 :: others)
    | '%' :: _ => none
    | c :: rest => (bytes rest).map ((String.singleton c).toUTF8.toList ++ ·)
    | [] => some []
  (bytes cs).bind fun found => String.fromUTF8? ⟨found.toArray⟩

/-- The full name of a tag. A tag by its own name has no expansion, and any
handle but the primary one has to be known. -/
def tagName? (directives : Directives) (source : List Char) : Option String :=
  match source with
  | ['!'] => some "!"
  | '!' :: '<' :: rest =>
      let name := String.ofList rest.dropLast
      if rest.getLast? = some '>' && name ≠ "!" && name ≠ "!!" then some name else none
  | _ =>
      let tail := (source.reverse.takeWhile (· ≠ '!')).reverse
      let handle := String.ofList (source.take (source.length - tail.length))
      if tail.isEmpty then none
      else
        match (directives.handles.filter fun entry => entry.1 = handle).getLast? with
        | some (_, expansion) => (unescape? tail).map (expansion ++ ·)
        | none => if handle = "!" then some (String.ofList source) else none

end Directives

end AttributeContracts.Yaml
