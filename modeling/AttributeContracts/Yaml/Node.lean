/-
# Nodes of a YAML document

A tree read for what it says: scalars, lists, maps, and aliases of nodes that
carry an anchor. Reading fails where the tree is no document: a key on several
lines, two equal keys, items at different columns, a comma too many, a block
inside brackets, a tag that cannot be resolved, and the like. Aliases are not
looked up here.
-/

import AttributeContracts.Yaml.Directive
import AttributeContracts.Yaml.Props
import AttributeContracts.Yaml.Scalar.Text

namespace AttributeContracts.Yaml

/-- A node. A pair of a map may lack its value. -/
inductive Node where
  | scalar (anchor? : Option String) (value : Scalar)
  | alias (name : String)
  | list (anchor? : Option String) (items : List Node)
  | map (anchor? : Option String) (pairs : List (Node × Option Node))
  /-- A collection that shows no members: its parts only count as nodes. -/
  | sealed (anchor? : Option String) (parts : List Node)

namespace Node

/-- Whether a key is equal to one of some others. -/
def isDuplicate (keys : List Node) : Node → Bool
  | .scalar _ value => keys.any fun key =>
      match key with
      | .scalar _ other => other.sameKey value
      | _ => false
  | _ => false

def isNull : Node → Bool
  | .scalar _ .null => true
  | _ => false

end Node

mutual

/-- Whether a tree spans several lines, as a key must not. -/
def Tree.hasNewline : Tree → Bool
  | .leaf token trail => token.source.contains '\n' || includes .newline trail
  | .flow _ _ items _ => Tree.haveNewline items
  | .block .. => true
  | .map .. => true
  | .list .. => true
termination_by structural tree => tree

def Tree.haveNewline : List Item → Bool
  | [] => false
  | item :: rest => item.hasNewline || Tree.haveNewline rest
termination_by structural items => items

def Item.hasNewline : Item → Bool
  | .mk start _ key? separator? value? =>
      includes .newline start || (separator?.any (includes .newline)) ||
        Tree.anyNewline key? || Tree.anyNewline value?
termination_by structural item => item

def Tree.anyNewline : Option Tree → Bool
  | some tree => tree.hasNewline
  | none => false
termination_by structural tree? => tree?

end

/-- The greatest distance of a key from its colon. -/
def keyLimit : Nat := 1024

/-- Where a key with its tag and anchor begins. -/
def keyOffset (props : Props) (key? : Option Tree) (colon : Token) : Nat :=
  props.markOffset?.getD ((key?.map Tree.offset).getD colon.offset)

/-- What the node in front of which some tokens stand is to be read as. -/
structure Reading where
  directives : Directives
  props : Props
  atRoot : Bool
  atKey : Bool

namespace Reading

/-- The name that the anchor gives to the node. An anchor needs one. -/
def anchor? (reading : Reading) : Option (Option String) :=
  match reading.props.anchor? with
  | none => some none
  | some token =>
      let name := token.source.drop 1
      if name.isEmpty then none else some (some (String.ofList name))

/-- The full name of the tag, if there is one. -/
def tag? (reading : Reading) : Option (Option String) :=
  match reading.props.tag? with
  | none => some none
  | some token => (reading.directives.tagName? token.source).map some

/-- The scalar node of a text. Only plain text is recognised by its form. -/
def scalar? (reading : Reading) (isPlain : Bool) (text : List Char) : Option Node := do
  let anchor? ← reading.anchor?
  let version := reading.directives.version
  let text := String.ofList text
  let value ← match ← reading.tag? with
    | some "!" => pure (Scalar.text text)
    | some tag => Scalar.ofTagged? version tag text
    | none =>
        pure (if isPlain then Scalar.ofPlain version reading.atKey text else .text text)
  pure (.scalar anchor? value)

/-- The node where nothing is written. -/
def empty? (reading : Reading) : Option Node := reading.scalar? true []

/-- The node of a leaf. -/
def leaf? (reading : Reading) (token : Token) (trail : List Token) : Option Node :=
  if !isCleanTrail false trail then none
  else
    match token.kind with
    | .alias =>
        let name := token.source.drop 1
        if name.isEmpty || reading.props.isMarked then none
        else some (.alias (String.ofList name))
    | .singleQuoted => do reading.scalar? false (← ScalarText.singleQuoted? token.source)
    | .doubleQuoted => do reading.scalar? false (← ScalarText.doubleQuoted? token.source)
    | _ => do reading.scalar? true (← ScalarText.plain? token.source)

/-- The node of a block text. -/
def block? (reading : Reading) (header : List Token) (text : List Char) (indent : Nat) :
    Option Node :=
  match header with
  | [] => none
  | mark :: more => do
      if !isCleanTrail false more then none
      else
        reading.scalar? false (← ScalarText.block? mark.source text indent reading.atRoot)

/-- The pairs of an ordered map or of a list of pairs: maps of one pair, or keys
without values. -/
def pairsOf? : List Node → Option (List (Node × Option Node))
  | [] => some []
  | item :: rest => do
      let pair ← match item with
        | .map _ [] => pure (Node.scalar none .null, none)
        | .map _ [pair] => pure pair
        | .map .. => none
        | key => pure (key, none)
      pure (pair :: (← pairsOf? rest))

/-- Whether all keys differ. -/
def haveDistinctKeys : List (Node × Option Node) → Bool
  | [] => true
  | (key, _) :: rest => !key.isDuplicate (rest.map Prod.fst) && haveDistinctKeys rest

/-- The node of a list, which a tag may turn into an ordered map or into a list
of pairs. -/
def list? (reading : Reading) (items : List Node) : Option Node := do
  let anchor? ← reading.anchor?
  let tag? ← reading.tag?
  if tag? = some (Scalar.tagNamespace ++ "omap") then
    let pairs ← pairsOf? items
    if haveDistinctKeys pairs then
      pure (.sealed anchor? (pairs.flatMap fun pair => pair.1 :: pair.2.toList))
    else none
  else if tag? = some (Scalar.tagNamespace ++ "pairs") then
    let pairs ← pairsOf? items
    pure (.list anchor? (pairs.map fun pair => .map none [pair]))
  else pure (.list anchor? items)

/-- The node of a map, which a tag may turn into a set if it has no values. -/
def map? (reading : Reading) (pairs : List (Node × Option Node)) : Option Node := do
  let anchor? ← reading.anchor?
  let tag? ← reading.tag?
  if tag? = some (Scalar.tagNamespace ++ "set") then
    if pairs.all fun pair => pair.2.all Node.isNull then
      pure (.sealed anchor? (pairs.map Prod.fst))
    else none
  else pure (.map anchor? pairs)

/-- Whether the last tag or anchor of a list without brackets is on a line of
its own. -/
def isMarkedAbove (reading : Reading) : Bool :=
  let offsets := (reading.props.anchor?.toList ++ reading.props.tag?.toList).map Token.offset
  offsets.all fun offset => reading.props.breakAfter?.any fun token => offset ≤ token.offset

end Reading

/-- What a map item says before its nodes are read. -/
structure KeyProps where
  props : Props
  /-- Whether the item is introduced by its key alone. -/
  implicit : Bool
  /-- Whether the item has no node at all. -/
  isLoose : Bool

/-- The tokens in front of the key of a map without brackets. -/
def KeyProps.read? (indent : Nat) (start : List Token) (key? : Option Tree)
    (separator? : Option (List Token)) : Option KeyProps := do
  let next := Follower.of key? (separator?.getD [])
  let props ← Props.read? ⟨false, .explicitKey, indent, true⟩ next start
  match props.found? with
  | some indicator =>
      if indicator.indent ≠ indent then none else pure ⟨props, false, false⟩
  | none =>
      if key?.any fun key => key matches .list .. then none
      else if key?.any fun key => key.indent ≠ indent then none
      else if !props.isMarked && separator?.isNone then pure ⟨props, true, true⟩
      else if props.breakAfter?.isSome || key?.any Tree.hasNewline then none
      else pure ⟨props, true, false⟩

/-- The tokens between the key and the value of a map without brackets. -/
def valueProps? (indent : Nat) (keyProps : KeyProps) (key? : Option Tree)
    (separator : List Token) (value? : Option Tree) : Option Props := do
  let atLineStart := key?.all fun key => key matches .block ..
  let next := Follower.of value? []
  let props ← Props.read? ⟨false, .mapValue, indent, atLineStart⟩ next separator
  match props.found? with
  | none => if keyProps.implicit then none else pure props
  | some colon =>
      let nested := value?.any fun value => value matches .map ..
      let far := keyOffset keyProps.props key? colon + keyLimit < colon.offset
      if keyProps.implicit && (nested && !props.hasNewline || far) then none else pure props

/-- The tokens in front of an item inside brackets, and whether the item is
nothing but these. -/
def flowProps? (isMap : Bool) (indent : Nat) (isFirst isLast : Bool) (item : Item) :
    Option (Props × Bool) := do
  let next := Follower.of item.key? (item.separator?.getD [])
  let props ← Props.read? ⟨true, .explicitKey, indent, false⟩ next item.start
  let isLoose := props.found?.isNone && !props.isMarked && item.separator?.isNone &&
    item.value?.isNone
  if isLoose then
    if isFirst && props.hasComma || !isLast then none
    else pure (props, true)
  else if props.found?.isNone && !isMap && item.key?.any Tree.hasNewline then none
  else if isFirst = props.hasComma then none
  else pure (props, false)

/-- The tokens between a key and its value inside brackets. -/
def flowValueProps? (isMap : Bool) (indent : Nat) (props : Props) (item : Item) :
    Option Props := do
  let separator := item.separator?.getD []
  let next := Follower.of item.value? []
  let valueProps ← Props.read? ⟨true, .mapValue, indent, false⟩ next separator
  match valueProps.found? with
  | none => if item.value?.isSome then none else pure valueProps
  | some colon =>
      let before := separator.takeWhile fun token => token.kind ≠ .mapValue
      let far := keyOffset props item.key? colon + keyLimit < colon.offset
      if !isMap && props.found?.isNone && (includes .newline before || far) then none
      else pure valueProps

mutual

/-- The node of a tree. -/
def Node.ofTree? (reading : Reading) : Tree → Option Node
  | .leaf token trail => reading.leaf? token trail
  | .block header text indent => reading.block? header text indent
  | .map _ indent items => do
      reading.map? (← Node.ofMapItems? reading.directives indent [] false items)
  | .list _ indent items =>
      if reading.isMarkedAbove then do
        reading.list? (← Node.ofListItems? reading.directives indent items)
      else none
  | .flow opening indent items trail => do
      let isMap := decide (opening.kind = .openMap)
      let expected := if isMap then TokenKind.closeMap else .closeList
      match trail with
      | [] => none
      | closing :: rest =>
          if closing.kind ≠ expected || !isCleanTrail false rest then none
          else
            let pairs ← Node.ofFlowItems? reading.directives isMap indent true [] items
            if isMap then reading.map? pairs
            else reading.list? (pairs.map Prod.fst)
termination_by structural tree => tree

/-- The node of a tree, or of the place where one could be. -/
def Node.ofTreeOrEmpty? (reading : Reading) : Option Tree → Option Node
  | some tree => Node.ofTree? reading tree
  | none => reading.empty?
termination_by structural tree? => tree?

/-- The pairs of a map without brackets. An item without any node may only come
last. -/
def Node.ofMapItems? (directives : Directives) (indent : Nat) (keys : List Node)
    (afterLoose : Bool) : List Item → Option (List (Node × Option Node))
  | [] => some []
  | .mk start _ key? separator? value? :: rest => do
      let keyProps ← KeyProps.read? indent start key? separator?
      if keyProps.isLoose then Node.ofMapItems? directives indent keys true rest
      else if afterLoose then none
      else
        let key ← Node.ofTreeOrEmpty? ⟨directives, keyProps.props, false, true⟩ key?
        if key.isDuplicate keys then none
        else
          let props ← valueProps? indent keyProps key? (separator?.getD []) value?
          let value? ←
            if props.found?.isSome then
              some <$> Node.ofTreeOrEmpty? ⟨directives, props, false, false⟩ value?
            else pure none
          let others ← Node.ofMapItems? directives indent (keys ++ [key]) false rest
          pure ((key, value?) :: others)
termination_by structural items => items

/-- The nodes of a list without brackets. -/
def Node.ofListItems? (directives : Directives) (indent : Nat) :
    List Item → Option (List Node)
  | [] => some []
  | .mk start _ _ _ value? :: rest => do
      let next := Follower.of value? []
      let props ← Props.read? ⟨false, .sequenceItem, indent, true⟩ next start
      if props.found?.isNone then
        if props.isMarked || value?.isSome then none
        else Node.ofListItems? directives indent rest
      else
        let node ← Node.ofTreeOrEmpty? ⟨directives, props, false, false⟩ value?
        let others ← Node.ofListItems? directives indent rest
        pure (node :: others)
termination_by structural items => items

/-- The items of a collection in brackets as pairs; an item of a list is a pair
without value, and one with a colon in it is a map of its own. -/
def Node.ofFlowItems? (directives : Directives) (isMap : Bool) (indent : Nat)
    (isFirst : Bool) (keys : List Node) : List Item → Option (List (Node × Option Node))
  | [] => some []
  | .mk start explicit key? separator? value? :: rest => do
      let (props, isLoose) ← flowProps? isMap indent isFirst rest.isEmpty
        (.mk start explicit key? separator? value?)
      if isLoose then Node.ofFlowItems? directives isMap indent false keys rest
      else if key?.any Tree.isBlockCollection || value?.any Tree.isBlockCollection then none
      else if !isMap && separator?.isNone && props.found?.isNone then
        let node ← Node.ofTreeOrEmpty? ⟨directives, props, false, false⟩ value?
        let others ← Node.ofFlowItems? directives isMap indent false keys rest
        pure ((node, none) :: others)
      else
        let key ← Node.ofTreeOrEmpty? ⟨directives, props, false, true⟩ key?
        let valueProps ← flowValueProps? isMap indent props
          (.mk start explicit key? separator? value?)
        let value? ←
          if valueProps.found?.isSome then
            some <$> Node.ofTreeOrEmpty? ⟨directives, valueProps, false, false⟩ value?
          else pure none
        if isMap && key.isDuplicate keys then none
        else
          let others ← Node.ofFlowItems? directives isMap indent false (keys ++ [key]) rest
          let pair := if isMap then (key, value?) else (.map none [(key, value?)], none)
          pure (pair :: others)
termination_by structural items => items

end

end AttributeContracts.Yaml
