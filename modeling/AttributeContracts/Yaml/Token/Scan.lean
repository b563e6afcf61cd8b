/-
# Scanning a YAML stream

Cuts a stream into lexemes. Where a piece ends depends on where it stands:
between documents, at the start of a line, inside a block or inside brackets.
The scanner carries the indentation that a continuation line needs at least,
the indentation of the current line, how many brackets are open, and whether a
colon may follow without a space because a bracketed key just ended.

Text over several lines goes on as long as its lines are indented enough; at
the outermost level it only stops at a document marker. A scan has no result
when the stream cannot be cut, for instance when a bracket is closed that was
never opened.
-/

import AttributeContracts.Yaml.Token

namespace AttributeContracts.Yaml.Scan

/-- Where the scanner stands. -/
inductive Mode where
  | stream
  | lineStart
  | blockStart
  | document
  | flow
deriving DecidableEq, Repr

/-- What the scanner carries along. -/
structure State where
  /-- The least indentation of a line that continues the current node. -/
  required : Nat
  /-- The indentation of the current line, indicators included. -/
  current : Nat
  /-- The number of open brackets. -/
  depth : Nat
  /-- Whether a bracketed key has just ended. -/
  afterKey : Bool
deriving DecidableEq, Repr

/-- The lexemes of one step, and where the scan goes on. -/
structure Progress where
  lexemes : List Lexeme
  mode : Mode
  state : State
  rest : List Char

def isBlank (c : Char) : Bool := c = ' ' || c = '\t'

/-- Whether a word ends before these characters. -/
def wordEnds : List Char → Bool
  | [] => true
  | c :: _ => isBlank c || c = '\n' || c = '\r'

def isFlowIndicator (c : Char) : Bool := [',', '[', ']', '\x7b', '\x7d'].contains c

def startsWithFlowIndicator (cs : List Char) : Bool := cs.head?.any isFlowIndicator

/-- The characters up to the end of the line. -/
def currentLine (cs : List Char) : List Char :=
  let line := cs.takeWhile (· ≠ '\n')
  if line.length < cs.length ∧ line.getLast? = some '\r' then line.dropLast else line

/-- Whether a document marker stands here. -/
def atMarker (cs : List Char) : Bool :=
  (['-', '-', '-'].isPrefixOf cs || ['.', '.', '.'].isPrefixOf cs) && wordEnds (cs.drop 3)

/-- Whether nothing but blanks and a comment is left on the line. -/
def atLineEnd (cs : List Char) : Bool :=
  match cs.dropWhile isBlank with
  | [] => true
  | '#' :: _ => true
  | '\n' :: _ => true
  | '\r' :: '\n' :: _ => true
  | _ => false

/-- A lexeme, or nothing if it has no characters. -/
def piece (kind : TokenKind) (source : List Char) : List Lexeme :=
  if source.isEmpty then [] else [⟨kind, source⟩]

/-- Cuts off what a test holds of. -/
def cut (kind : TokenKind) (test : Char → Bool) (cs : List Char) : List Lexeme × List Char :=
  (piece kind (cs.takeWhile test), cs.dropWhile test)

def cutBlanks : List Char → List Lexeme × List Char := cut .space isBlank

def cutSpaces : List Char → List Lexeme × List Char := cut .space (· = ' ')

def cutNewline : List Char → List Lexeme × List Char
  | '\n' :: rest => ([⟨.newline, ['\n']⟩], rest)
  | '\r' :: '\n' :: rest => ([⟨.newline, ['\r', '\n']⟩], rest)
  | cs => ([], cs)

/-- Cuts off the rest of the line as a comment. -/
def cutComment (cs : List Char) : List Lexeme × List Char :=
  let line := currentLine cs
  (piece .comment line, cs.drop line.length)

/-- How many characters after a line break belong to the same text, if the text
goes on there at all: blank lines do, and lines that are indented enough. -/
def continuation? (required : Nat) (cs : List Char) : Option Nat :=
  if required = 0 then
    if atMarker cs then none else some 0
  else
    let spaces := (cs.takeWhile (· = ' ')).length
    match cs.drop spaces with
    | '\r' :: '\n' :: _ => some (spaces + 1)
    | '\n' :: _ => some spaces
    | _ => if required ≤ spaces then some spaces else none

/-- The length of a plain text. `reached` is the position after the last
character that is no blank. -/
def plainLength (inFlow : Bool) (required : Nat) :
    Nat → (position reached : Nat) → List Char → Nat
  | 0, _, reached, _ => reached
  | _, _, reached, [] => reached
  | fuel + 1, position, reached, c :: rest =>
      let next := position + 1
      let broken (next : Nat) (rest : List Char) : Nat :=
        if rest.head? = some '#' || inFlow && startsWithFlowIndicator rest then reached
        else
          match continuation? required rest with
          | none => reached
          | some count =>
              plainLength inFlow required fuel (next + (count - 1)) reached
                (rest.drop (count - 1))
      if c = ':' then
        if wordEnds rest || inFlow && startsWithFlowIndicator rest then reached
        else plainLength inFlow required fuel next next rest
      else if c = '\n' then broken next rest
      else if c = '\r' then
        match rest with
        | '\n' :: rest => broken (next + 1) rest
        | _ =>
            if rest.head? = some '#' || inFlow && startsWithFlowIndicator rest then next
            else plainLength inFlow required fuel next next rest
      else if isBlank c then
        if rest.head? = some '#' || inFlow && startsWithFlowIndicator rest then reached
        else plainLength inFlow required fuel next reached rest
      else if inFlow && isFlowIndicator c then reached
      else plainLength inFlow required fuel next next rest

def cutPlain (state : State) (cs : List Char) : List Lexeme × List Char :=
  let size := plainLength (0 < state.depth) state.required (cs.length + 1) 0 0 cs
  ([⟨.plain, cs.take size⟩], cs.drop size)

/-- The characters before the closing quote of a single-quoted text; a doubled
quote does not close it. -/
def singleQuotedLength : List Char → Option Nat
  | [] => none
  | '\'' :: '\'' :: rest => (singleQuotedLength rest).map (· + 2)
  | '\'' :: _ => some 0
  | _ :: rest => (singleQuotedLength rest).map (· + 1)

/-- The characters before the closing quote of a double-quoted text; an escaped
quote does not close it. -/
def doubleQuotedLength : List Char → Option Nat
  | [] => none
  | '\\' :: _ :: rest => (doubleQuotedLength rest).map (· + 2)
  | '"' :: _ => some 0
  | _ :: rest => (doubleQuotedLength rest).map (· + 1)

/-- Where quoted text breaks off because a line is not indented enough: the
position of the line break within the first `limit` characters. -/
def breakPosition? (required : Nat) : Nat → (position limit : Nat) → List Char → Option Nat
  | 0, _, _, _ => none
  | fuel + 1, position, limit, cs =>
      let before := (cs.takeWhile (· ≠ '\n')).length
      if limit ≤ position + before then none
      else
        match cs.drop (before + 1) with
        | rest =>
            match continuation? required rest with
            | none => some (position + before)
            | some count =>
                breakPosition? required fuel (position + before + 1 + count) limit
                  (rest.drop count)

/-- Cuts off a quoted text. One that is never closed takes all that is left, and
one that breaks off ends with its last good line. -/
def cutQuoted (state : State) (double : Bool) (cs : List Char) : List Lexeme × List Char :=
  let body := cs.drop 1
  let closing := if double then doubleQuotedLength body else singleQuotedLength body
  let size := match closing with
    | none => cs.length
    | some inner =>
        match breakPosition? state.required (cs.length + 1) 0 (inner + 1) cs with
        | none => inner + 2
        | some at_ =>
            if (cs.take at_).getLast? = some '\r' then at_ - 1 else at_
  let kind : TokenKind := if double then .doubleQuoted else .singleQuoted
  ([⟨kind, cs.take size⟩], cs.drop size)

def isAnchorChar (c : Char) : Bool :=
  !(isFlowIndicator c || isBlank c || c = '\n' || c = '\r')

def isTagChar (c : Char) : Bool :=
  c.isAlphanum || "-#;/?:@&=+$_.!~*'()".toList.contains c

/-- The length of a tag after its first character. -/
def tagLength : List Char → Nat
  | '%' :: a :: b :: rest =>
      if (Text.hexDigit? a).isSome && (Text.hexDigit? b).isSome then tagLength rest + 3 else 0
  | c :: rest => if isTagChar c then tagLength rest + 1 else 0
  | [] => 0

def cutTag (cs : List Char) : List Lexeme × List Char :=
  let size := match cs.drop 1 with
    | '<' :: rest =>
        let inner := rest.takeWhile fun c => !(wordEnds [c] || c = '>')
        let closed := (rest.drop inner.length).head? = some '>'
        inner.length + (if closed then 3 else 2)
    | rest => tagLength rest + 1
  ([⟨.tag, cs.take size⟩], cs.drop size)

/-- The kind of an indicator that opens an item, a key or a value. -/
def indicator? : Char → Option TokenKind
  | '-' => some .sequenceItem
  | '?' => some .explicitKey
  | ':' => some .mapValue
  | _ => none

/-- Cuts off tags, anchors and indicators. Outside brackets an indicator asks
for deeper indentation; inside them an item indicator has no place. -/
def cutIndicators : Nat → State → List Char → Option (List Lexeme × State × List Char)
  | 0, state, cs => some ([], state, cs)
  | _, state, [] => some ([], state, [])
  | fuel + 1, state, c :: rest => do
      let go (found : List Lexeme) (state : State) (rest : List Char) := do
        let (blanks, rest) := cutBlanks rest
        let (others, state, rest) ← cutIndicators fuel state rest
        pure (found ++ blanks ++ others, state, rest)
      if c = '!' then
        let (found, rest) := cutTag (c :: rest)
        go found state rest
      else if c = '&' then
        let (found, rest) := cut .anchor isAnchorChar (c :: rest)
        go found state rest
      else
        match indicator? c with
        | none => pure ([], state, c :: rest)
        | some kind =>
            let inFlow := decide (0 < state.depth)
            if wordEnds rest || inFlow && startsWithFlowIndicator rest then
              if inFlow then
                if kind = .sequenceItem then none
                else go [⟨kind, [c]⟩] { state with afterKey := false } rest
              else go [⟨kind, [c]⟩] { state with required := state.current + 1 } rest
            else pure ([], state, c :: rest)

/-- The position of the first blank in front of a comment mark. -/
def commentStart : List Char → Nat
  | [] => 0
  | c :: rest => if isBlank c && rest.head? = some '#' then 0 else commentStart rest + 1

/-- A stream position between documents: byte order mark, directive, or a line
that is blank but for a comment. Anything else begins a document. -/
def scanStream (state : State) (cs : List Char) : Progress :=
  let (mark, cs) := match cs with
    | '\uFEFF' :: rest => ([(⟨.byteOrderMark, ['\uFEFF']⟩ : Lexeme)], rest)
    | _ => ([], cs)
  if cs.head? = some '%' then
    let line := currentLine cs
    let directive := ((line.take (commentStart line)).reverse.dropWhile isBlank).reverse
    let (blanks, rest) := cutBlanks (cs.drop directive.length)
    let (comment, rest) := cutComment rest
    ⟨mark ++ piece .directive directive ++ blanks ++ comment, .stream, state, rest⟩
  else if atLineEnd cs then
    let (blanks, rest) := cutBlanks cs
    let (comment, rest) := cutComment rest
    let (newline, rest) := cutNewline rest
    ⟨mark ++ blanks ++ comment ++ newline, .stream, state, rest⟩
  else ⟨mark ++ [⟨.contentStart, []⟩], .lineStart, state, cs⟩

/-- The start of a line: a document marker, or indentation. -/
def scanLineStart (state : State) (cs : List Char) : Progress :=
  if atMarker cs then
    let opening := decide (cs.head? = some '-')
    let kind : TokenKind := if opening then .documentStart else .documentEnd
    ⟨[⟨kind, cs.take 3⟩], if opening then .document else .stream,
      { state with required := 0, current := 0 }, cs.drop 3⟩
  else
    let (spaces, rest) := cutSpaces cs
    let indent := cs.length - rest.length
    let required :=
      if indent < state.required && !wordEnds (rest.drop 1) then indent else state.required
    ⟨spaces, .blockStart, { state with required := required, current := indent }, rest⟩

/-- The first characters of a line after its indentation: indicators that open
nested items. -/
def scanBlockStart (state : State) (cs : List Char) : Progress :=
  match cs with
  | c :: rest =>
      match indicator? c with
      | some kind =>
          if wordEnds rest then
            let (blanks, after) := cutBlanks rest
            let size := 1 + (rest.length - after.length)
            ⟨⟨kind, [c]⟩ :: blanks, .blockStart,
              { state with required := state.current + 1, current := state.current + size },
              after⟩
          else ⟨[], .document, state, cs⟩
      | none => ⟨[], .document, state, cs⟩
  | [] => ⟨[], .document, state, []⟩

/-- Splits into lines, each with its line break. -/
def lines : Nat → List Char → List (List Char)
  | 0, _ => []
  | _, [] => []
  | fuel + 1, cs =>
      let line := cs.takeWhile (· ≠ '\n')
      match cs.drop line.length with
      | [] => [line]
      | c :: rest => (line ++ [c]) :: lines fuel rest

/-- The number of spaces that a line of spaces only has, if it is one. -/
def blankWidth? (line : List Char) : Option Nat :=
  let spaces := (line.takeWhile (· = ' ')).length
  let after := line.drop spaces
  if [[], ['\n'], ['\r'], ['\r', '\n']].contains after then some spaces else none

/-- Whether a line is blank and has a line break. -/
def isBlankLine (line : List Char) : Bool :=
  let after := line.dropWhile (· = ' ')
  after = ['\n'] || after = ['\r', '\n']

/-- Drops blank lines from the end of block text as long as they are indented no
more than the text and are not its first line. The lines come last one first. -/
def dropBlankEnd (indent : Nat) : List (List Char) → List (List Char)
  | last :: before :: rest =>
      match blankWidth? last with
      | some width =>
          if width ≤ indent then dropBlankEnd indent (before :: rest) else last :: before :: rest
      | none => last :: before :: rest
  | few => few

/-- The text below a block header, the requirement on later lines, and what
follows. Tabs that are not indented enough are taken into the text, where they
will be refused. -/
def cutBlockText (state : State) (explicit? : Option Nat) (keep : Bool) (cs : List Char) :
    List Char × State × List Char :=
  let all := lines (cs.length + 1) cs
  let blanks := all.takeWhile isBlankLine
  let others := all.dropWhile isBlankLine
  let indent := (others.headD []).takeWhile (· = ' ') |>.length
  let (state, accepted) :=
    if state.required ≤ indent then
      let required := match explicit? with
        | none => indent
        | some more => more + (if state.required = 0 then 1 else state.required)
      ({ state with required := required },
        others.takeWhile fun line => (continuation? required line).isSome)
    else (state, [])
  let taken := blanks ++ accepted
  let rest := cs.drop taken.flatten.length
  let spaces := rest.takeWhile (· = ' ')
  let after := rest.drop spaces.length
  if after.head? = some '\t' then
    let junk := after.takeWhile fun c => wordEnds [c]
    (taken.flatten ++ spaces ++ junk, state, after.drop junk.length)
  else
    let taken := if keep then taken else (dropBlankEnd indent taken.reverse).reverse
    (taken.flatten, state, cs.drop taken.flatten.length)

/-- A block header, the rest of its line, and the text below it. Only a comment
may follow the header on its line. -/
def scanBlock (state : State) (cs : List Char) : Option Progress :=
  let header := cs.takeWhile fun c => !(wordEnds [c] || c = '#')
  let flags := (header.drop 1).takeWhile fun c =>
    c = '+' || c = '-' || c.isDigit && c ≠ '0'
  let explicit? := (flags.filter Char.isDigit).getLast?.map fun c => c.toNat - '1'.toNat
  let (blanks, rest) := cutBlanks (cs.drop header.length)
  let (comment, rest) := cutComment rest
  if comment.any fun lexeme => lexeme.source.head? ≠ some '#' then none
  else
    let (newline, rest) := cutNewline rest
    let (text, state, rest) := cutBlockText state explicit? (flags.contains '+') rest
    some ⟨⟨.blockHeader, header⟩ :: blanks ++ comment ++ newline ++ [⟨.blockText, text⟩],
      .lineStart, state, rest⟩

/-- The kind of a bracket that opens a collection. -/
def opening? : Char → Option TokenKind
  | '\x7b' => some .openMap
  | '[' => some .openList
  | _ => none

/-- The kind of a bracket that closes a collection. -/
def closing? : Char → Option TokenKind
  | '\x7d' => some .closeMap
  | ']' => some .closeList
  | _ => none

/-- Puts lexemes in front of those of a further step. -/
def Progress.after (found : List Lexeme) (progress : Progress) : Progress :=
  { progress with lexemes := found ++ progress.lexemes }

/-- The inside of a line outside brackets. -/
def scanDocument (state : State) (cs : List Char) : Option Progress := do
  let (blanks, cs) := cutBlanks cs
  let (found, state, cs) ← cutIndicators (cs.length + 1) state cs
  let found := blanks ++ found
  match currentLine cs with
  | [] =>
      let (newline, rest) := cutNewline cs
      pure ⟨found ++ newline, .lineStart, state, rest⟩
  | c :: _ =>
      if c = '#' then
        let (comment, rest) := cutComment cs
        let (newline, rest) := cutNewline rest
        pure ⟨found ++ comment ++ newline, .lineStart, state, rest⟩
      else if let some kind := opening? c then
        pure ⟨found ++ [⟨kind, [c]⟩], .flow, { state with depth := 1, afterKey := false },
          cs.drop 1⟩
      else if (closing? c).isSome then none
      else if c = '*' then
        let (alias_, rest) := cut .alias isAnchorChar cs
        pure ⟨found ++ alias_, .document, state, rest⟩
      else if c = '"' || c = '\'' then
        let (quoted, rest) := cutQuoted state (c = '"') cs
        pure ⟨found ++ quoted, .document, state, rest⟩
      else if c = '|' || c = '>' then
        return (← scanBlock state cs).after found
      else
        let (plain, rest) := cutPlain state cs
        pure ⟨found ++ plain, .document, state, rest⟩

/-- Cuts off line breaks and blanks inside brackets, and gives the indentation of
the last line if there was a line break. -/
def cutFlowBreaks : Nat → Option Nat → List Char → List Lexeme × Option Nat × List Char
  | 0, indent?, cs => ([], indent?, cs)
  | fuel + 1, indent?, cs =>
      match cutNewline cs with
      | ([], _) =>
          let (blanks, rest) := cutBlanks cs
          if blanks.isEmpty then ([], indent?, cs)
          else
            let (others, indent?, rest) := cutFlowBreaks fuel indent? rest
            (blanks ++ others, indent?, rest)
      | (newline, rest) =>
          let (spaces, rest') := cutSpaces rest
          let (blanks, rest'') := cutBlanks rest'
          let (others, indent?, after) :=
            cutFlowBreaks fuel (some (rest.length - rest'.length)) rest''
          (newline ++ spaces ++ blanks ++ others, indent?, after)

/-- Cuts off commas and the blanks after them. -/
def cutCommas : Nat → State → List Char → List Lexeme × State × List Char
  | fuel + 1, state, ',' :: rest =>
      let (blanks, rest) := cutBlanks rest
      let (others, state, rest) := cutCommas fuel { state with afterKey := false } rest
      (⟨.comma, [',']⟩ :: blanks ++ others, state, rest)
  | _, state, cs => ([], state, cs)

/-- Whether a line inside brackets is not indented enough. The last closing
bracket may stand where the line of the opening one began. -/
def breaksOut (state : State) (indent : Nat) (cs : List Char) : Bool :=
  let line := currentLine cs
  let shallow := indent < state.required && line.head? ≠ some '#'
  let atEnd := indent + 1 = state.required && state.depth = 1 &&
    line.head?.any fun c => (closing? c).isSome
  (shallow || indent = 0 && atMarker cs) && !atEnd

/-- The inside of brackets. -/
def scanFlow (state : State) (cs : List Char) : Option Progress := do
  let (breaks, indent?, cs) := cutFlowBreaks (cs.length + 1) none cs
  let state := match indent? with
    | some indent => { state with current := indent }
    | none => state
  if indent?.any fun indent => breaksOut state indent cs then none
  else
    let (commas, state, cs) := cutCommas (cs.length + 1) state cs
    let (found, state, cs) ← cutIndicators (cs.length + 1) state cs
    let found := breaks ++ commas ++ found
    match currentLine cs with
    | [] => pure ⟨found, .flow, state, cs⟩
    | c :: _ =>
        if c = '#' then
          let (comment, rest) := cutComment cs
          pure ⟨found ++ comment, .flow, state, rest⟩
        else if let some kind := opening? c then
          pure ⟨found ++ [⟨kind, [c]⟩], .flow,
            { state with depth := state.depth + 1, afterKey := false }, cs.drop 1⟩
        else if let some kind := closing? c then
          let depth := state.depth - 1
          pure ⟨found ++ [⟨kind, [c]⟩], if 0 < depth then .flow else .document,
            { state with depth := depth, afterKey := true }, cs.drop 1⟩
        else if c = '*' then
          let (alias_, rest) := cut .alias isAnchorChar cs
          pure ⟨found ++ alias_, .flow, state, rest⟩
        else if c = '"' || c = '\'' then
          let (quoted, rest) := cutQuoted state (c = '"') cs
          pure ⟨found ++ quoted, .flow, { state with afterKey := true }, rest⟩
        else if c = ':' && (state.afterKey || wordEnds (cs.drop 1)
            || (cs.drop 1).head? = some ',') then
          let (blanks, rest) := cutBlanks (cs.drop 1)
          pure ⟨found ++ ⟨.mapValue, [c]⟩ :: blanks, .flow, { state with afterKey := false },
            rest⟩
        else
          let state := { state with afterKey := false }
          let (plain, rest) := cutPlain state cs
          pure ⟨found ++ plain, .flow, state, rest⟩

/-- One step of the scan. -/
def step (mode : Mode) (state : State) (cs : List Char) : Option Progress :=
  match mode with
  | .stream => some (scanStream state cs)
  | .lineStart => some (scanLineStart state cs)
  | .blockStart => some (scanBlockStart state cs)
  | .document => scanDocument state cs
  | .flow => scanFlow state cs

/-- Steps until nothing is left. Between two steps that take characters there
are at most three that only change the mode, which bounds the fuel. -/
def scanFrom : Nat → Mode → State → List Char → Option (List Lexeme)
  | 0, _, _, _ => none
  | _, _, _, [] => some []
  | fuel + 1, mode, state, cs => do
      let progress ← step mode state cs
      let others ← scanFrom fuel progress.mode progress.state progress.rest
      pure (progress.lexemes ++ others)

/-- The lexemes of a stream, if it can be cut. -/
def scan (cs : List Char) : Option (List Lexeme) :=
  scanFrom (4 * cs.length + 4) .stream ⟨0, 0, 0, false⟩ cs

end AttributeContracts.Yaml.Scan
