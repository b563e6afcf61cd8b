/-
# Trees of a YAML document

The tokens of a document arranged by nesting, before anything is said about what
they mean: which tokens stand before a node, between a key and its value, and
behind a node. Tags, anchors and comments are still tokens among these, and
whether they may stand there is decided when the tree is read as nodes.
-/

import AttributeContracts.Yaml.Token

namespace AttributeContracts.Yaml

mutual

/-- A node with the tokens around it. -/
inductive Tree where
  /-- An alias or a text on one or more lines, with the tokens behind it. -/
  | leaf (token : Token) (trail : List Token)
  /-- A text below a header, at the indentation of what holds it. -/
  | block (header : List Token) (text : List Char) (indent : Nat)
  | map (offset indent : Nat) (items : List Item)
  | list (offset indent : Nat) (items : List Item)
  /-- A collection in brackets, with its closing bracket and what follows it. -/
  | flow (opening : Token) (indent : Nat) (items : List Item) (trail : List Token)

/-- An item of a collection: the tokens before it, its key, the tokens between
key and value, and its value. An item without separator has no key. -/
inductive Item where
  | mk (start : List Token) (explicit : Bool) (key? : Option Tree)
      (separator? : Option (List Token)) (value? : Option Tree)

end

namespace Item

def start : Item → List Token
  | .mk start .. => start

/-- Whether the item is introduced by a key indicator. -/
def explicit : Item → Bool
  | .mk _ explicit .. => explicit

def key? : Item → Option Tree
  | .mk _ _ key? .. => key?

def separator? : Item → Option (List Token)
  | .mk _ _ _ separator? _ => separator?

def value? : Item → Option Tree
  | .mk _ _ _ _ value? => value?

/-- An item of which only the tokens before it are known. -/
def ofStart (start : List Token) : Item := .mk start false none none none

/-- An item with a key. -/
def ofKey (start : List Token) (key? : Option Tree) (separator : List Token) : Item :=
  .mk start false key? (some separator) none

/-- An item with a value and nothing else. -/
def ofValue (value : Tree) : Item := .mk [] false none none (some value)

def withStart (start : List Token) : Item → Item
  | .mk _ explicit key? separator? value? => .mk start explicit key? separator? value?

def withSeparator (separator : List Token) : Item → Item
  | .mk start explicit key? _ value? => .mk start explicit key? (some separator) value?

def withKey (key? : Option Tree) (separator : List Token) : Item → Item
  | .mk start explicit _ _ value? => .mk start explicit key? (some separator) value?

def withoutKey : Item → Item
  | .mk start explicit _ _ value? => .mk start explicit none none value?

def withValue (value : Tree) : Item → Item
  | .mk start explicit key? separator? _ => .mk start explicit key? separator? (some value)

/-- Adds a token before the item. -/
def addStart (token : Token) (item : Item) : Item := item.withStart (item.start ++ [token])

/-- Adds a token between key and value. -/
def addSeparator (token : Token) (item : Item) : Item :=
  item.withSeparator (item.separator?.getD [] ++ [token])

end Item

namespace Tree

/-- The tokens behind a tree that can have some. -/
def trail : Tree → List Token
  | .leaf _ trail => trail
  | .flow _ _ _ trail => trail
  | _ => []

/-- Adds tokens behind a tree. -/
def addTrail (tokens : List Token) : Tree → Tree
  | .leaf token trail => .leaf token (trail ++ tokens)
  | .flow opening indent items trail => .flow opening indent items (trail ++ tokens)
  | tree => tree

/-- Whether a tree is a leaf or stands in brackets. -/
def isInline : Tree → Bool
  | .leaf .. | .flow .. => true
  | _ => false

/-- Whether a tree is a collection without brackets. -/
def isBlockCollection : Tree → Bool
  | .map .. | .list .. => true
  | _ => false

/-- The indentation at which a tree starts, which is that of its first token. -/
def indent : Tree → Nat
  | .leaf token _ => token.indent
  | .block _ _ indent => indent
  | .map _ indent _ => indent
  | .list _ indent _ => indent
  | .flow _ indent _ _ => indent

/-- The place where a tree starts. -/
def offset : Tree → Nat
  | .leaf token _ => token.offset
  | .block header _ _ => (header.head?.map Token.offset).getD 0
  | .map offset _ _ => offset
  | .list offset _ _ => offset
  | .flow opening _ _ _ => opening.offset

end Tree

/-- Whether a token of a kind is among some tokens. -/
def includes (kind : TokenKind) (tokens : List Token) : Bool :=
  tokens.any fun token => token.kind = kind

end AttributeContracts.Yaml
