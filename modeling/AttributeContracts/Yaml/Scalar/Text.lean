/-
# The text of a YAML scalar

What a scalar says once its line breaks, quotes and escapes are undone. A single
line break in plain or quoted text reads as a space and several read as one
fewer; blanks around them do not count. Block text keeps its lines as they are
or folds them, without the indentation they share.
-/

import AttributeContracts.Yaml.Token

namespace AttributeContracts.Yaml.ScalarText

def isBlank (c : Char) : Bool := c = ' ' || c = '\t'

def trimStart (cs : List Char) : List Char := cs.dropWhile isBlank

def trimEnd (cs : List Char) : List Char := (cs.reverse.dropWhile isBlank).reverse

/-- The lines of a text without their line breaks. -/
def splitLines (cs : List Char) : List (List Char) :=
  match cs with
  | [] => [[]]
  | '\n' :: rest => [] :: splitLines rest
  | '\r' :: '\n' :: rest => [] :: splitLines rest
  | c :: rest =>
      match splitLines rest with
      | line :: lines => (c :: line) :: lines
      | [] => [[c]]

/-- Appends the lines after the first one. The flag says whether the line before
was empty. -/
def foldRest (folded : List Char) (afterEmpty : Bool) : List (List Char) → List Char
  | [] => folded
  | [last] => folded ++ (if afterEmpty then '\n' else ' ') :: trimStart last
  | line :: rest =>
      let line := trimEnd (trimStart line)
      if line.isEmpty then
        foldRest (if afterEmpty then folded ++ ['\n'] else folded) true rest
      else foldRest (folded ++ (if afterEmpty then '\n' else ' ') :: line) false rest

/-- Folds the line breaks of plain and single-quoted text. -/
def fold (cs : List Char) : List Char :=
  match splitLines cs with
  | first :: second :: rest => foldRest (trimEnd first) false (second :: rest)
  | _ => cs

/-- The characters with which plain text cannot begin. -/
def plainExcluded : List Char := ['\t', ',', '%', '|', '>', '@', '\x60']

/-- The text of a plain scalar. -/
def plain? (source : List Char) : Option (List Char) :=
  if source.head?.any plainExcluded.contains then none else some (fold source)

/-- Undoes doubled single quotes. -/
def halveQuotes : List Char → List Char
  | '\'' :: '\'' :: rest => '\'' :: halveQuotes rest
  | c :: rest => c :: halveQuotes rest
  | [] => []

/-- The text of a single-quoted scalar, which has to end with its quote. -/
def singleQuoted? (source : List Char) : Option (List Char) :=
  if source.getLast? = some '\'' && 1 < source.length then
    some (halveQuotes (fold (source.drop 1).dropLast))
  else none

/-- The code unit of an escape by one character. -/
def letterEscape? : Char → Option Nat
  | '0' => some 0x00
  | 'a' => some 0x07
  | 'b' => some 0x08
  | 'e' => some 0x1b
  | 'f' => some 0x0c
  | 'n' => some 0x0a
  | 'r' => some 0x0d
  | 't' => some 0x09
  | 'v' => some 0x0b
  | 'N' => some 0x85
  | '_' => some 0xa0
  | 'L' => some 0x2028
  | 'P' => some 0x2029
  | ' ' => some 0x20
  | '"' => some 0x22
  | '/' => some 0x2f
  | '\\' => some 0x5c
  | '\t' => some 0x09
  | _ => none

/-- The number of digits of an escape by number. -/
def numberEscape? : Char → Option Nat
  | 'x' => some 2
  | 'u' => some 4
  | 'U' => some 8
  | _ => none

/-- The line breaks after a first one, and what follows the blanks among them. -/
def skipBreaks : List Char → Nat × List Char
  | ' ' :: rest => skipBreaks rest
  | '\t' :: rest => skipBreaks rest
  | '\n' :: rest =>
      let (count, after) := skipBreaks rest
      (count + 1, after)
  | '\r' :: '\n' :: rest =>
      let (count, after) := skipBreaks rest
      (count + 1, after)
  | cs => (0, cs)

/-- Whether a line break comes next. -/
def atBreak : List Char → Bool
  | '\n' :: _ => true
  | '\r' :: '\n' :: _ => true
  | _ => false

/-- The code units of double-quoted text between its quotes. A backslash at the
end escapes the quote behind it. Every turn takes at least one character, which
bounds the fuel. -/
def doubleQuotedUnits : Nat → List Char → Option (List Nat)
  | 0, _ => none
  | _, [] => some []
  | fuel + 1, c :: rest =>
      if atBreak (c :: rest) then
        let (count, after) := skipBreaks (rest.drop (if c = '\r' then 1 else 0))
        let breaks := if count = 0 then [0x20] else List.replicate count 0x0a
        (doubleQuotedUnits fuel after).map (breaks ++ ·)
      else if c = '\\' then
        if atBreak rest then
          let after := rest.drop (if rest.head? = some '\r' then 2 else 1)
          doubleQuotedUnits fuel (trimStart after)
        else
          match rest with
          | [] => some [0x22]
          | letter :: after =>
              match letterEscape? letter, numberEscape? letter with
              | some unit, _ => (doubleQuotedUnits fuel after).map (unit :: ·)
              | none, some count => do
                  let unit ← Text.hexNumber? (after.take count)
                  if after.length < count || 0x110000 ≤ unit then none
                  else (doubleQuotedUnits fuel (after.drop count)).map (unit :: ·)
              | none, none => none
      else if isBlank c then
        let blanks := (c :: rest).takeWhile isBlank
        let after := (c :: rest).drop blanks.length
        if atBreak after then doubleQuotedUnits fuel after
        else (doubleQuotedUnits fuel after).map (blanks.map Char.toNat ++ ·)
      else (doubleQuotedUnits fuel rest).map (c.toNat :: ·)

/-- The text of a double-quoted scalar, which has to end with its quote. -/
def doubleQuoted? (source : List Char) : Option (List Char) :=
  if source.getLast? = some '"' && 1 < source.length then
    (doubleQuotedUnits (source.length + 1) (source.drop 1).dropLast).map Text.joinUnits
  else none

/-- How the line breaks at the end of block text are treated. -/
inductive Chomping where
  | clip
  | strip
  | keep
deriving DecidableEq, Repr

/-- What the header of block text says. -/
structure BlockStyle where
  folded : Bool
  chomping : Chomping
  /-- The stated indentation below what holds the text, if one is stated. -/
  indent? : Option Nat
deriving DecidableEq, Repr

/-- Reads the marks of a block header after its first character: one for the end
of the text and one digit, in either order. -/
def blockMarks? (style : BlockStyle) : List Char → Option BlockStyle
  | [] => some style
  | c :: rest =>
      if (c = '-' || c = '+') && style.chomping = .clip then
        blockMarks? { style with chomping := if c = '-' then .strip else .keep } rest
      else if c.isDigit && c ≠ '0' && style.indent?.isNone then
        blockMarks? { style with indent? := some (c.toNat - '0'.toNat) } rest
      else none

/-- Reads a block header. -/
def blockStyle? : List Char → Option BlockStyle
  | c :: marks => blockMarks? ⟨c = '>', .clip, none⟩ marks
  | [] => none

/-- A line of block text: its leading spaces, counted, and the rest. -/
structure BlockLine where
  indent : Nat
  content : List Char
deriving DecidableEq, Repr

namespace BlockLine

def ofChars (line : List Char) : BlockLine :=
  let spaces := (line.takeWhile (· = ' ')).length
  ⟨spaces, line.drop spaces⟩

/-- Whether the line has nothing but spaces. -/
def isEmpty (line : BlockLine) : Bool := line.content.isEmpty || line.content = ['\r']

/-- The content without a carriage return that belongs to the line break. -/
def body (line : BlockLine) : List Char :=
  if line.content.getLast? = some '\r' then line.content.dropLast else line.content

/-- The spaces beyond an indentation. -/
def extra (line : BlockLine) (indent : Nat) : List Char :=
  List.replicate (line.indent - indent) ' '

end BlockLine

/-- Splits block text at line feeds only. -/
def blockLines (cs : List Char) : List BlockLine := go cs |>.map BlockLine.ofChars
where
  go : List Char → List (List Char)
    | [] => [[]]
    | '\n' :: rest => [] :: go rest
    | c :: rest =>
        match go rest with
        | line :: lines => (c :: line) :: lines
        | [] => [[c]]

/-- What separates a line of folded text from those before it. -/
inductive Separation where
  | none
  | space
  | break
deriving DecidableEq, Repr

/-- Joins lines as they are. -/
def literalText (indent : Nat) (lines : List BlockLine) : List Char :=
  ['\n'].intercalate (lines.map fun line => line.extra indent ++ line.body)

/-- Folds lines. A line that is indented more or starts with a tab keeps the
line breaks around it; an empty line is a line break of its own. -/
def foldedText (indent : Nat) :
    (text : List Char) → Separation → (afterIndented : Bool) → List BlockLine → List Char
  | text, _, _, [] => text
  | text, separation, afterIndented, line :: rest =>
      let body := line.body
      if indent < line.indent || body.head? = some '\t' then
        let breaks := match separation with
          | .none => []
          | .space => ['\n']
          | .break => if afterIndented then ['\n'] else ['\n', '\n']
        foldedText indent (text ++ breaks ++ line.extra indent ++ body) .break true rest
      else if body.isEmpty then
        foldedText indent (if separation = .break then text ++ ['\n'] else text) .break
          afterIndented rest
      else
        let breaks := match separation with
          | .none => []
          | .space => [' ']
          | .break => ['\n']
        foldedText indent (text ++ breaks ++ body) .space false rest

/-- The text below a block header. It is refused when a line is indented less
than the text, when empty lines before the text are indented more than it, or
when it is not indented at all inside a collection. -/
def block? (header source : List Char) (holderIndent : Nat) (atRoot : Bool) :
    Option (List Char) := do
  let style ← blockStyle? header
  let lines := if source.isEmpty then [] else blockLines source
  let bodyCount := lines.length - (lines.reverse.takeWhile BlockLine.isEmpty).length
  if bodyCount = 0 then
    if style.chomping = .keep && 0 < lines.length then
      pure (List.replicate (max 1 (lines.length - 1)) '\n')
    else pure []
  else
    let leading := (lines.takeWhile BlockLine.isEmpty)
    let widest := (leading.map BlockLine.indent).foldl max holderIndent
    let firstIndent := ((lines.drop leading.length).head?.map BlockLine.indent).getD 0
    let least := match style.indent? with
      | some indent => holderIndent + indent
      | none => widest
    let indent := match style.indent? with
      | some indent => holderIndent + indent
      | none => firstIndent
    if firstIndent < least || indent = 0 && !atRoot then none
    else
      let trailing := (lines.drop bodyCount).reverse.dropWhile fun line => line.indent ≤ indent
      let count := bodyCount + trailing.length
      let content := (lines.take count).drop leading.length
      if content.any fun line => !line.body.isEmpty && line.indent < indent then none
      else
        let start := leading.flatMap fun line => line.extra indent ++ ['\n']
        let text :=
          if style.folded then start ++ foldedText indent [] .none false content
          else start ++ literalText indent content
        match style.chomping with
        | .strip => pure text
        | .clip => pure (text ++ ['\n'])
        | .keep =>
            let kept := text ++
              (lines.drop count).flatMap fun line => '\n' :: line.extra indent
            pure (if kept.getLast? = some '\n' then kept else kept ++ ['\n'])

end AttributeContracts.Yaml.ScalarText
