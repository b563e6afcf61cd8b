/-
# Arranging tokens as a tree

A document is read from left to right with a stack of frames, one for each node
that is still open, the innermost first. A token extends the innermost frame,
opens another frame on top of it, or closes it; a closed frame becomes a tree
and is attached to the frame below it, which then sees the token in turn.

The arrangement decides only by kinds and indentation. A colon can turn the leaf
or bracketed collection before it into the first key of a map, taking along the
tags and anchors in front of it. A token that fits nowhere makes the
arrangement fail.
-/

import AttributeContracts.Yaml.Tree

namespace AttributeContracts.Yaml

/-- A node that is still open. Items are kept last one first. -/
inductive Frame where
  | leaf (token : Token) (trail : List Token)
  | block (header : List Token)
  | map (offset indent : Nat) (last : Item) (earlier : List Item)
  | list (offset indent : Nat) (last : Item) (earlier : List Item)
  | flow (opening : Token) (indent : Nat) (items : List Item) (trail : List Token)

/-- A document that is being arranged. -/
structure Arrangement where
  /-- The tokens before the root. -/
  start : List Token
  root? : Option Tree
  /-- The tokens behind the root. -/
  trail : List Token
  /-- Whether the line of the root's end is over. -/
  ended : Bool
  frames : List Frame
  /-- Whether a key of the innermost map is on the current line. -/
  onKeyLine : Bool

/-- Turns an item of a bracketed list that has no colon from a key into a value. -/
def Item.asListItem (item : Item) : Item :=
  match item with
  | .mk start explicit key? (some separator) none =>
      if includes .explicitKey start || includes .mapValue separator then item
      else
        match key? with
        | some key =>
            if key.isInline then
              .mk start explicit none none (some (key.addTrail separator))
            else .mk (start ++ separator) explicit none none (some key)
        | none => .mk (start ++ separator) explicit none none none
  | item => item

/-- The items of a bracketed collection, settled when it closes. -/
def settledItems (opening : Token) (items : List Item) : List Item :=
  if opening.kind = .openList then items.map Item.asListItem else items

/-- Splits off the tokens that belong to a first key: those behind the last
indicator or line break, without leading spaces. -/
def splitKeyTokens (tokens : List Token) : List Token × List Token :=
  let isBound (token : Token) : Bool :=
    [TokenKind.documentStart, .explicitKey, .mapValue, .sequenceItem, .newline].contains
      token.kind
  let tail := (tokens.reverse.takeWhile fun token => !isBound token).reverse
  let taken := tail.dropWhile fun token => token.kind = .space
  (tokens.take (tokens.length - taken.length), taken)

namespace Frame

/-- The tree of a frame that closes. A block text takes the indentation of what
holds it. -/
def close (holderIndent : Nat) : Frame → Tree
  | .leaf token trail => .leaf token trail
  | .block header => .block header [] holderIndent
  | .map offset indent last earlier => .map offset indent (last :: earlier).reverse
  | .list offset indent last earlier => .list offset indent (last :: earlier).reverse
  | .flow opening indent items trail =>
      .flow opening indent (settledItems opening items.reverse) trail

/-- The indentation of a frame, as a block text in it sees it. -/
def indent : Frame → Nat
  | .leaf token _ => token.indent
  | .block _ => 0
  | .map _ indent _ _ => indent
  | .list _ indent _ _ => indent
  | .flow _ indent _ _ => indent

end Frame

namespace Arrangement

def empty : Arrangement := ⟨[], none, [], false, [], false⟩

/-- Opens a frame. -/
def push (frame : Frame) (s : Arrangement) : Arrangement :=
  { s with frames := frame :: s.frames }

/-- Takes the tokens of a first key away from what is innermost. -/
def takeKeyTokens (s : Arrangement) : List Token × Arrangement :=
  match s.frames with
  | [] =>
      let (kept, taken) := splitKeyTokens s.start
      (taken, { s with start := kept })
  | .map offset indent last earlier :: below =>
      match last.separator? with
      | some separator =>
          let (kept, taken) := splitKeyTokens separator
          (taken, { s with
            frames := .map offset indent (last.withSeparator kept) earlier :: below })
      | none =>
          let (kept, taken) := splitKeyTokens last.start
          (taken, { s with
            frames := .map offset indent (last.withStart kept) earlier :: below })
  | .list offset indent last earlier :: below =>
      let (kept, taken) := splitKeyTokens last.start
      (taken, { s with
        frames := .list offset indent (last.withStart kept) earlier :: below })
  | _ => ([], s)

/-- Splits the tokens behind a block collection off its last item, if that item
is nothing else: they belong to what holds the collection. -/
def splitLooseEnd : Tree → Tree × Option (List Token)
  | .map offset indent items => (go items indent (Tree.map offset indent)).getD
      (.map offset indent items, none)
  | .list offset indent items => (go items indent (Tree.list offset indent)).getD
      (.list offset indent items, none)
  | tree => (tree, none)
where
  go (items : List Item) (indent : Nat) (make : List Item → Tree) :
      Option (Tree × Option (List Token)) :=
    match items.getLast? with
    | some (.mk (first :: more) _ _ none none) =>
        let start := first :: more
        if start.all (fun token => token.kind.isFiller) &&
            (indent = 0 || start.all fun token =>
              token.kind ≠ .comment || token.indent < indent) then
          some (make items.dropLast, some start)
        else none
    | _ => none

/-- Attaches a tree to what is innermost. -/
def attach (tree : Tree) (s : Arrangement) : Option Arrangement :=
  match s.frames with
  | [] =>
      let tree := match tree with
        | .flow opening _ items trail => .flow opening 0 items trail
        | tree => tree
      let (tree, loose?) := splitLooseEnd tree
      some { s with root? := some tree, trail := loose?.getD s.trail }
  | .map offset indent last earlier :: below =>
      if last.value?.isSome then
        some { s with
          frames := .map offset indent (.ofKey [] (some tree) []) (last :: earlier) :: below
          onKeyLine := true }
      else if last.separator?.isSome then
        let (tree, loose?) := splitLooseEnd tree
        let last := last.withValue tree
        let frame := match loose? with
          | some loose => Frame.map offset indent (.ofStart loose) (last :: earlier)
          | none => .map offset indent last earlier
        some { s with frames := frame :: below }
      else
        some { s with
          frames := .map offset indent (last.withKey (some tree) []) earlier :: below
          onKeyLine := !last.explicit }
  | .list offset indent last earlier :: below =>
      let (tree, loose?) := splitLooseEnd tree
      let (last, earlier) :=
        if last.value?.isSome then (Item.ofValue tree, last :: earlier)
        else (last.withValue tree, earlier)
      let frame := match loose? with
        | some loose => Frame.list offset indent (.ofStart loose) (last :: earlier)
        | none => .list offset indent last earlier
      some { s with frames := frame :: below }
  | .flow opening indent items trail :: below =>
      let items := match items with
        | [] => [.ofKey [] (some tree) []]
        | last :: earlier =>
            if last.value?.isSome then .ofKey [] (some tree) [] :: last :: earlier
            else if last.separator?.isSome then last.withValue tree :: earlier
            else last.withKey (some tree) [] :: earlier
      some { s with frames := .flow opening indent items trail :: below }
  | _ => none

/-- Closes the innermost frame. -/
def pop (s : Arrangement) : Option Arrangement :=
  match s.frames with
  | [] => none
  | frame :: below =>
      let holderIndent := (below.head?.map Frame.indent).getD 0
      attach (frame.close holderIndent) { s with frames := below }

/-- Opens the frame that a token begins, if it can begin one. -/
def start? (token : Token) (s : Arrangement) : Option Arrangement :=
  match token.kind with
  | .alias | .plain | .singleQuoted | .doubleQuoted => some (s.push (.leaf token []))
  | .blockHeader => some (s.push (.block [token]))
  | .openMap | .openList => some (s.push (.flow token token.indent [] []))
  | .sequenceItem => some (s.push (.list token.offset token.indent (.ofStart [token]) []))
  | .explicitKey =>
      let (taken, s) := s.takeKeyTokens
      some ({ s with onKeyLine := true }.push
        (.map token.offset token.indent (.mk (taken ++ [token]) true none none none) []))
  | .mapValue =>
      let (taken, s) := s.takeKeyTokens
      some ({ s with onKeyLine := true }.push
        (.map token.offset token.indent (.ofKey taken none [token]) []))
  | _ => none

/-- What a frame makes of a token. -/
inductive Reaction where
  /-- The token is dealt with. -/
  | taken (s : Arrangement)
  /-- The frame ends before the token. -/
  | ends (s : Arrangement)

/-- A token behind a leaf or a closed bracket: fillers are kept, a line break
ends the node after being kept, and what separates items ends it before. -/
def atEnd (token : Token) (kept : Arrangement) (s : Arrangement) : Option Reaction :=
  match token.kind with
  | .comma | .closeMap | .closeList | .mapValue => some (.ends s)
  | .newline => (pop { kept with onKeyLine := false }).map .taken
  | .space | .comment => some (.taken kept)
  | _ => none

/-- A token outside all frames. -/
def feedDocument (token : Token) (s : Arrangement) : Option Reaction :=
  if s.ended then
    if token.kind.isFiller then some (.taken s) else none
  else if s.root?.isSome then
    match token.kind with
    | .newline =>
        some (.taken { s with trail := s.trail ++ [token], ended := true, onKeyLine := false })
    | .space | .comment => some (.taken { s with trail := s.trail ++ [token] })
    | _ => none
  else
    match token.kind with
    | .documentStart =>
        if s.start.all fun token => token.kind.isFiller then
          some (.taken { s with start := s.start ++ [token] })
        else none
    | .anchor | .tag | .space | .comment | .newline =>
        some (.taken { s with start := s.start ++ [token] })
    | _ => (s.start? token).map .taken

/-- A token behind a leaf. A colon makes the leaf the first key of a map. -/
def feedLeaf (token leaf : Token) (trail : List Token) (below : List Frame)
    (s : Arrangement) : Option Reaction :=
  if token.kind = .mapValue then
    let (taken, s) := { s with frames := below }.takeKeyTokens
    let item := Item.ofKey taken (some (.leaf leaf [])) (trail ++ [token])
    some (.taken ({ s with onKeyLine := true }.push (.map leaf.offset leaf.indent item [])))
  else
    atEnd token { s with frames := .leaf leaf (trail ++ [token]) :: below } s

/-- A token below a block header, up to the text. -/
def feedBlock (token : Token) (header : List Token) (below : List Frame)
    (s : Arrangement) : Option Reaction :=
  match token.kind with
  | .space | .comment | .newline =>
      some (.taken { s with frames := .block (header ++ [token]) :: below })
  | .blockText =>
      let holderIndent := (below.head?.map Frame.indent).getD 0
      (attach (.block header token.source holderIndent) { s with frames := below }).map .taken
  | _ => none

/-- Whether a comment stands deeper than a collection and nothing but line
breaks and spaces comes before it in its item. -/
def isIndentedComment (token : Token) (start : List Token) (indent : Nat) : Bool :=
  token.kind = .comment && indent < token.indent &&
    start.all fun before => before.kind = .newline || before.kind = .space

/-- A filler behind an item of a block collection. The result is the items
afterwards, last one first. -/
def feedFiller (token : Token) (indent : Nat) (last : Item) (earlier : List Item) :
    Item × List Item :=
  match last.value? with
  | some value =>
      if token.kind = .newline &&
          value.trail.getLast?.any (fun before => before.kind = .comment) then
        (last.withValue (value.addTrail [token]), earlier)
      else (.ofStart [token], last :: earlier)
  | none =>
      if last.separator?.isSome then (last.addSeparator token, earlier)
      else
        match earlier with
        | previous :: before =>
            match previous.value? with
            | some value =>
                if isIndentedComment token last.start indent && !value.trail.isEmpty then
                  (previous.withValue (value.addTrail (last.start ++ [token])), before)
                else (last.addStart token, earlier)
            | none => (last.addStart token, earlier)
        | [] => (last.addStart token, earlier)

/-- Splits the tokens from the second line break on off a separator without a
value; a comment that stands deeper than the map keeps what is before it. -/
def splitEmptyLines (indent : Nat) (separator : List Token) : List Token × List Token :=
  let breaks := (List.range separator.length).zip separator |>.foldl (fun breaks entry =>
    match entry.2.kind with
    | .newline => breaks ++ [entry.1]
    | .space => breaks
    | .comment => if indent < entry.2.indent then [] else breaks
    | _ => []) []
  match breaks with
  | _ :: second :: _ => (separator.take second, separator.drop second)
  | _ => (separator, [])

/-- A colon in a map. -/
def feedMapValue (token : Token) (offset indent : Nat) (last : Item) (earlier : List Item)
    (below : List Frame) (atNextItem : Bool) (start : List Token) (s : Arrangement) :
    Arrangement :=
  let withItems (last : Item) (earlier : List Item) : Arrangement :=
    { s with frames := .map offset indent last earlier :: below }
  let nested (last item : Item) : Arrangement :=
    (withItems last earlier).push (.map token.offset token.indent item [])
  let s := match last.separator? with
    | none =>
        if last.explicit && !includes .newline last.start then
          let (kept, taken) := splitKeyTokens last.start
          nested (last.withStart kept) (.ofKey taken none [token])
        else withItems (last.withKey none [token]) earlier
    | some separator =>
        if last.value?.isSome || !last.explicit && atNextItem then
          withItems (.ofKey (if last.explicit then [] else start) none [token])
            (last :: earlier)
        else if includes .mapValue separator then
          nested last (.ofKey (if last.explicit then start else []) none [token])
        else if last.explicit && last.key?.any Tree.isInline &&
            !includes .newline separator then
          let (kept, taken) := splitKeyTokens last.start
          nested (last.withStart kept).withoutKey
            (.ofKey taken last.key? (separator ++ [token]))
        else if last.explicit then
          withItems (last.withSeparator (separator ++ start ++ [token])) earlier
        else withItems (last.withSeparator (separator ++ [token])) earlier
  { s with onKeyLine := true }

/-- A token that is no filler in a map that it may belong to by its indentation. -/
def feedMapItem (token : Token) (offset indent : Nat) (last : Item) (earlier : List Item)
    (below : List Frame) (s : Arrangement) : Option Reaction :=
  let atMapIndent := !s.onKeyLine && token.indent = indent
  let atNextItem := atMapIndent && (last.separator?.isSome || last.explicit) &&
    token.kind ≠ .sequenceItem
  let (last, start) := match last.separator?, last.value? with
    | some separator, none =>
        if atNextItem then
          let (kept, start) := splitEmptyLines indent separator
          (last.withSeparator kept, start)
        else (last, [])
    | _, _ => (last, [])
  let withItems (last : Item) (earlier : List Item) (onKeyLine : Bool) : Arrangement :=
    { s with frames := .map offset indent last earlier :: below, onKeyLine := onKeyLine }
  let next := atNextItem || last.value?.isSome
  match token.kind with
  | .anchor | .tag =>
      if next then
        some (.taken (withItems (.ofStart (start ++ [token])) (last :: earlier) true))
      else if last.separator?.isSome then
        some (.taken (withItems (last.addSeparator token) earlier s.onKeyLine))
      else some (.taken (withItems (last.addStart token) earlier s.onKeyLine))
  | .explicitKey =>
      if last.separator?.isNone && !last.explicit then
        let item := Item.mk (last.start ++ [token]) true last.key? none last.value?
        some (.taken (withItems item earlier true))
      else if next then
        let item := Item.mk (start ++ [token]) true none none none
        some (.taken (withItems item (last :: earlier) true))
      else
        let item := Item.mk [token] true none none none
        some (.taken ((withItems last earlier true).push
          (.map token.offset token.indent item [])))
  | .mapValue =>
      some (.taken (feedMapValue token offset indent last earlier below atNextItem start s))
  | .alias | .plain | .singleQuoted | .doubleQuoted =>
      if next then
        some (.taken (withItems (.ofKey start (some (.leaf token [])) []) (last :: earlier) true))
      else if last.separator?.isSome then
        some (.taken ((withItems last earlier s.onKeyLine).push (.leaf token [])))
      else
        some (.taken (withItems (last.withKey (some (.leaf token [])) []) earlier true))
  | .sequenceItem =>
      if !last.explicit &&
          last.separator?.any (fun separator => !includes .newline separator) then
        none
      else ((withItems last earlier s.onKeyLine).start? token).map .taken
  | .blockHeader | .openMap | .openList =>
      let s :=
        if atMapIndent then withItems (.ofStart start) (last :: earlier) s.onKeyLine
        else withItems last earlier s.onKeyLine
      (s.start? token).map .taken
  | _ => some (.ends (withItems last earlier s.onKeyLine))

/-- A token in a map. -/
def feedMap (token : Token) (offset indent : Nat) (last : Item) (earlier : List Item)
    (below : List Frame) (s : Arrangement) : Option Reaction :=
  if token.kind.isFiller then
    let (last, earlier) := feedFiller token indent last earlier
    let onKeyLine := if token.kind = .newline then false else s.onKeyLine
    some (.taken { s with
      frames := .map offset indent last earlier :: below, onKeyLine := onKeyLine })
  else if indent ≤ token.indent then
    feedMapItem token offset indent last earlier below s
  else some (.ends s)

/-- A token in a list without brackets. -/
def feedList (token : Token) (offset indent : Nat) (last : Item) (earlier : List Item)
    (below : List Frame) (s : Arrangement) : Option Reaction :=
  let withItems (last : Item) (earlier : List Item) : Arrangement :=
    { s with frames := .list offset indent last earlier :: below }
  let deeper : Option Reaction :=
    if indent < token.indent then
      match s.start? token with
      | some s => some (.taken s)
      | none => some (.ends s)
    else some (.ends s)
  match token.kind with
  | .newline | .space | .comment =>
      let (last, earlier) := feedFiller token indent last earlier
      some (.taken (withItems last earlier))
  | .anchor | .tag =>
      if last.value?.isSome || token.indent ≤ indent then deeper
      else some (.taken (withItems (last.addStart token) earlier))
  | .sequenceItem =>
      if token.indent ≠ indent then deeper
      else if last.value?.isSome || includes .sequenceItem last.start then
        some (.taken (withItems (.ofStart [token]) (last :: earlier)))
      else some (.taken (withItems (last.addStart token) earlier))
  | _ => deeper

/-- A token inside brackets. -/
def feedFlowItem (token : Token) (opening : Token) (indent : Nat) (items : List Item)
    (below : List Frame) (s : Arrangement) : Option Reaction :=
  let withItems (items : List Item) : Option Reaction :=
    some (.taken { s with frames := .flow opening indent items [] :: below })
  match token.kind with
  | .comma | .explicitKey =>
      match items with
      | last :: earlier =>
          if last.separator?.isSome then withItems (.ofStart [token] :: items)
          else withItems (last.addStart token :: earlier)
      | [] => withItems [.ofStart [token]]
  | .mapValue =>
      match items with
      | last :: earlier =>
          if last.value?.isSome then withItems (.ofKey [] none [token] :: items)
          else if last.separator?.isSome then withItems (last.addSeparator token :: earlier)
          else withItems (last.withKey none [token] :: earlier)
      | [] => withItems [.ofKey [] none [token]]
  | .space | .comment | .newline | .anchor | .tag =>
      match items with
      | last :: earlier =>
          if last.value?.isSome then withItems (.ofStart [token] :: items)
          else if last.separator?.isSome then withItems (last.addSeparator token :: earlier)
          else withItems (last.addStart token :: earlier)
      | [] => withItems [.ofStart [token]]
  | .alias | .plain | .singleQuoted | .doubleQuoted =>
      let leaf := Tree.leaf token []
      match items with
      | last :: earlier =>
          if last.value?.isSome then withItems (.ofKey [] (some leaf) [] :: items)
          else if last.separator?.isSome then some (.taken (s.push (.leaf token [])))
          else withItems (last.withKey (some leaf) [] :: earlier)
      | [] => withItems [.ofKey [] (some leaf) []]
  | .closeMap | .closeList =>
      some (.taken { s with frames := .flow opening indent items [token] :: below })
  | .openMap | .openList => (s.start? token).map .taken
  | _ => none

/-- A token behind a closing bracket. -/
def feedFlowEnd (token : Token) (opening : Token) (indent : Nat) (items : List Item)
    (trail : List Token) (below : List Frame) (s : Arrangement) : Option Reaction :=
  let kept := { s with frames := .flow opening indent items (trail ++ [token]) :: below }
  let asKey : Option Reaction :=
    let (taken, s) := { s with frames := below }.takeKeyTokens
    let key := Tree.flow opening indent (settledItems opening items.reverse) (trail.take 1)
    let item := Item.ofKey taken (some key) (trail.drop 1 ++ [token])
    some (.taken ({ s with onKeyLine := true }.push (.map opening.offset indent item [])))
  match below.head? with
  | some (.map _ mapIndent last _) =>
      if token.kind = .mapValue && mapIndent = indent ||
          token.kind = .newline && last.separator?.isNone then
        some (.ends s)
      else if token.kind = .mapValue then asKey
      else atEnd token kept s
  | some (.flow ..) => atEnd token kept s
  | _ => if token.kind = .mapValue then asKey else atEnd token kept s

/-- What the innermost frame makes of a token. -/
def react (token : Token) (s : Arrangement) : Option Reaction :=
  match s.frames with
  | [] => feedDocument token s
  | .leaf leaf trail :: below => feedLeaf token leaf trail below s
  | .block header :: below => feedBlock token header below s
  | .map offset indent last earlier :: below =>
      feedMap token offset indent last earlier below s
  | .list offset indent last earlier :: below =>
      feedList token offset indent last earlier below s
  | .flow opening indent items [] :: below => feedFlowItem token opening indent items below s
  | .flow opening indent items trail :: below =>
      feedFlowEnd token opening indent items trail below s

/-- Closes frames until one takes the token. There is one more frame to ask than
are open, which bounds the fuel. -/
def feed (token : Token) : Nat → Arrangement → Option Arrangement
  | 0, _ => none
  | fuel + 1, s => do
      match ← react token s with
      | .taken s => pure s
      | .ends s => feed token fuel (← pop s)

/-- Closes all frames that are left. -/
def finish : Nat → Arrangement → Option Arrangement
  | 0, s => if s.frames.isEmpty then some s else none
  | fuel + 1, s => if s.frames.isEmpty then some s else do finish fuel (← pop s)

/-- The arrangement of the tokens of a document. -/
def ofTokens? (tokens : List Token) : Option Arrangement := do
  let s ← tokens.foldlM (fun s token => feed token (s.frames.length + 1) s) empty
  finish s.frames.length s

end Arrangement

end AttributeContracts.Yaml
