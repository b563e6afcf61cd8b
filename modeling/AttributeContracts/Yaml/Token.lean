/-
# Tokens of a YAML stream

A token is a piece of the stream with a kind and a place: where it starts,
counted in code units of 16 bits, and how far its line was indented up to it. At
the start of a line spaces count as indentation, and so do the three indicators
that open an item, because what follows them on the line belongs to a deeper
level. The pieces concatenate to the stream.
-/

import AttributeContracts.Text.Units

namespace AttributeContracts.Yaml

inductive TokenKind where
  | byteOrderMark
  | directive
  /-- Marks the place where a document begins; it has no characters. -/
  | contentStart
  | documentStart
  | documentEnd
  | newline
  | space
  | comment
  | sequenceItem
  | explicitKey
  | mapValue
  | comma
  | openMap
  | closeMap
  | openList
  | closeList
  | anchor
  | tag
  | alias
  | plain
  | singleQuoted
  | doubleQuoted
  | blockHeader
  | blockText
deriving DecidableEq, Repr

namespace TokenKind

/-- Whether a token separates others without saying anything. -/
def isFiller : TokenKind → Bool
  | .space | .comment | .newline => true
  | _ => false

end TokenKind

/-- A piece of the stream that has not been placed yet. -/
structure Lexeme where
  kind : TokenKind
  source : List Char
deriving DecidableEq, Repr

/-- A piece of the stream at its place. -/
structure Token where
  kind : TokenKind
  source : List Char
  offset : Nat
  indent : Nat
deriving DecidableEq, Repr

namespace Token

/-- The place after a token. -/
def endOffset (token : Token) : Nat :=
  token.offset + Text.unitLength token.source

def text (token : Token) : String := String.ofList token.source

end Token

/-- Places lexemes. The flag says whether only indentation has been seen on the
current line. -/
def placeFrom (offset indent : Nat) (atLineStart : Bool) : List Lexeme → List Token
  | [] => []
  | lexeme :: rest =>
      let token : Token := ⟨lexeme.kind, lexeme.source, offset, indent⟩
      let size := lexeme.source.length
      let (indent, atLineStart) := match lexeme.kind with
        | .newline | .blockText => (0, true)
        | .space =>
            (if atLineStart && lexeme.source.head? = some ' ' then indent + size else indent,
              atLineStart)
        | .sequenceItem | .explicitKey | .mapValue =>
            (if atLineStart then indent + size else indent, atLineStart)
        | .contentStart => (indent, atLineStart)
        | _ => (indent, false)
      token :: placeFrom token.endOffset indent atLineStart rest

/-- Places the lexemes of a whole stream. -/
def place (lexemes : List Lexeme) : List Token := placeFrom 0 0 true lexemes

end AttributeContracts.Yaml
