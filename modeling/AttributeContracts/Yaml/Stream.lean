/-
# Streams with one YAML document

A stream is directives, a document, and perhaps an end mark with nothing but
comments and directives behind it. Directives need a start mark after them, and
a second document makes the stream malformed. A stream without any document is
well-formed too.
-/

import AttributeContracts.Yaml.Node
import AttributeContracts.Yaml.Token.Scan
import AttributeContracts.Yaml.Tree.Frame

namespace AttributeContracts.Yaml

/-- The tokens of a stream by their part. -/
structure Stream where
  prologue : List Token
  /-- The tokens of the document, if there is one. -/
  body? : Option (List Token)
  epilogue : List Token

namespace Stream

/-- Splits the tokens of a stream. -/
def ofTokens (tokens : List Token) : Stream :=
  let prologue := tokens.takeWhile fun token => token.kind ≠ .contentStart
  match tokens.drop prologue.length with
  | [] => ⟨prologue, none, []⟩
  | _ :: rest =>
      let body := rest.takeWhile fun token => token.kind ≠ .documentEnd
      ⟨prologue, some body, (rest.drop body.length).drop 1⟩

/-- The directives among some tokens, taken into account in turn. -/
def directives? (tokens : List Token) : Option Directives :=
  (tokens.filter fun token => token.kind = .directive).foldlM
    (fun directives token => directives.add? token.source) .standard

/-- The root node of an arranged document. Directives have to be followed by a
start mark, and a block collection does not start on the line of that mark. -/
def root? (directives : Directives) (needsMark : Bool) (document : Arrangement) :
    Option Node := do
  let next := Follower.of document.root? document.trail
  let props ← Props.read? ⟨false, .documentStart, 0, true⟩ next document.start
  let sameLine := props.found?.isSome && !props.hasNewline
  if needsMark && props.found?.isNone then none
  else if document.root?.any Tree.isBlockCollection && sameLine then none
  else Node.ofTreeOrEmpty? ⟨directives, props, true, false⟩ document.root?

/-- The root of the document in a stream. The outer option is for malformed
streams, the inner one for streams without a document. -/
def read? (stream : Stream) : Option (Option Node) := do
  let directives ← directives? stream.prologue
  let _ ← directives? stream.epilogue
  let needsMark := includes .directive stream.prologue
  let isOver := !includes .contentStart (stream.body?.getD []) &&
    !includes .contentStart stream.epilogue
  if !isOver then none
  else
    match stream.body? with
    | none => if needsMark then none else pure none
    | some body => do
        let node ← root? directives needsMark (← Arrangement.ofTokens? body)
        pure (some node)

end Stream

/-- The root of the document that a text spells. -/
def read? (text : String) : Option (Option Node) := do
  let lexemes ← Scan.scan text.toList
  (Stream.ofTokens (place lexemes)).read?

end AttributeContracts.Yaml
