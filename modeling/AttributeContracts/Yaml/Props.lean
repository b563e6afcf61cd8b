/-
# The tokens in front of a node

Before a key, a value or an item stand its indicator, at most one tag and at
most one anchor, and fillers among them. This module says what may stand there
and in which order, where white space is needed, and where a tab is no
indentation.
-/

import AttributeContracts.Yaml.Tree

namespace AttributeContracts.Yaml

/-- What the tokens in front of a node say. -/
structure Props where
  anchor? : Option Token
  tag? : Option Token
  /-- The indicator that was asked for. -/
  found? : Option Token
  /-- Whether a comma stands in front, inside brackets. -/
  hasComma : Bool
  hasNewline : Bool
  /-- The last line break behind a tag or anchor. -/
  breakAfter? : Option Token
deriving DecidableEq, Repr

/-- What comes directly after some tokens. -/
inductive Follower where
  | nothing
  | token (token : Token)
  | tree (tree : Tree)

namespace Follower

/-- The follower that is a tree if there is one, else the first of some tokens. -/
def of (tree? : Option Tree) (tokens : List Token) : Follower :=
  match tree?, tokens with
  | some found, _ => .tree found
  | none, first :: _ => .token first
  | none, [] => .nothing

/-- Whether something follows that a tag or anchor must be kept apart from. -/
def needsSpace : Follower → Bool
  | .nothing => false
  | .token found => !([TokenKind.space, .newline, .comma].contains found.kind)
  | .tree (.leaf found _) => !(found.kind = .plain && found.source.isEmpty)
  | .tree _ => true

def isBlockCollection : Follower → Bool
  | .tree found => found.isBlockCollection
  | _ => false

def isFlow : Follower → Bool
  | .tree (.flow ..) => true
  | _ => false

end Follower

namespace Props

def empty : Props := ⟨none, none, none, false, false, none⟩

/-- Whether a tag or an anchor is there. -/
def isMarked (props : Props) : Bool := props.anchor?.isSome || props.tag?.isSome

/-- The place of the first tag or anchor. -/
def markOffset? (props : Props) : Option Nat :=
  match props.anchor?, props.tag? with
  | some anchor, some tag => some (min anchor.offset tag.offset)
  | some anchor, none => some anchor.offset
  | none, some tag => some tag.offset
  | none, none => none

/-- The surroundings in which tokens are read. -/
structure Place where
  /-- Whether this is inside brackets. -/
  flow : Bool
  indicator : TokenKind
  parentIndent : Nat
  /-- Whether the tokens begin where a line may begin. -/
  atLineStart : Bool

/-- What is known after some of the tokens. -/
structure Progress where
  props : Props
  atNewline : Bool
  hasSpace : Bool
  /-- Whether a tag or anchor has just ended. -/
  needsSpace : Bool
  tab? : Option Token

/-- Takes one token into account. -/
def step? (place : Place) (next : Follower) (s : Progress) (token : Token) :
    Option Progress :=
  let separates := [TokenKind.space, .newline, .comma].contains token.kind
  let endsLine := [TokenKind.comment, .newline].contains token.kind
  if s.needsSpace && !separates then none
  else if s.tab?.isSome && s.atNewline && !endsLine then none
  else
    let props := s.props
    let s := { s with needsSpace := false, tab? := none }
    let mark (props : Props) : Option Progress :=
      some ⟨props, false, false, true, none⟩
    match token.kind with
    | .space =>
        let counts := !place.flow && (place.indicator ≠ .documentStart || !next.isFlow)
        some { s with
          hasSpace := true
          tab? := if counts && token.source.contains '\t' then some token else none }
    | .comment => if s.hasSpace then some { s with atNewline := false } else none
    | .newline =>
        let breakAfter? := if props.isMarked then some token else props.breakAfter?
        some { s with
          props := { props with hasNewline := true, breakAfter? := breakAfter? }
          atNewline := true
          hasSpace := true }
    | .anchor =>
        if props.anchor?.isSome then none else mark { props with anchor? := some token }
    | .tag => if props.tag?.isSome then none else mark { props with tag? := some token }
    | kind =>
        if kind = place.indicator then
          if props.isMarked || props.found?.isSome then none
          else
            some { s with
              props := { props with found? := some token }
              atNewline := kind = .sequenceItem || kind = .explicitKey
              hasSpace := false }
        else if kind = .comma && place.flow then
          if props.hasComma then none
          else
            some { s with
              props := { props with hasComma := true }
              atNewline := false
              hasSpace := false }
        else none

/-- What the tokens in front of a node say, if they may stand there. -/
def read? (place : Place) (next : Follower) (tokens : List Token) : Option Props := do
  let s ← tokens.foldlM (step? place next)
    ⟨Props.empty, place.atLineStart, place.atLineStart, false, none⟩
  if s.needsSpace && next.needsSpace then none
  else
    match s.tab? with
    | some tab =>
        if s.atNewline && tab.indent ≤ place.parentIndent || next.isBlockCollection then none
        else pure s.props
    | none => pure s.props

end Props

/-- Whether only fillers stand behind a node, and space before any comment. -/
def isCleanTrail : (hasSpace : Bool) → List Token → Bool
  | _, [] => true
  | hasSpace, token :: rest =>
      match token.kind with
      | .space | .newline => isCleanTrail true rest
      | .comment => hasSpace && isCleanTrail hasSpace rest
      | _ => false

end AttributeContracts.Yaml
