/-
# Nodes as documents

Turns a node into a document, which has no aliases: an alias becomes what the
last node before it with that anchor became. An alias inside the node that it
names stands for an empty collection of that kind, since only the kind of such
an endless value can be seen.

An alias counts against its anchor. The limit is on the number of uses times the
greatest such number below the anchored node, so that aliases of aliases cannot
multiply.
-/

import AttributeContracts.Config.Document
import AttributeContracts.Failure
import AttributeContracts.Yaml.Node

namespace AttributeContracts.Yaml

/-- A node with an anchor that has been met. -/
structure Anchored where
  name : String
  node : Node
  /-- What the node became, or for the time being an empty collection. -/
  document : Document
  uses : Nat
  /-- The weight of one use, zero as long as it is not known. -/
  weight : Nat

/-- The greatest number of weighted uses. -/
def aliasLimit : Nat := 100

/-- Making documents while anchors are met, oldest first. -/
abbrev Resolver (α : Type) := List Anchored → Except Failure (α × List Anchored)

namespace Scalar

/-- The document of a scalar. A merge mark without a map is like no other value. -/
def document : Scalar → Document
  | .null => .null
  | .bool b => .bool b
  | .number n => .number n
  | .text s => .text s
  | .bytes count =>
      .object ((List.range count).map fun i => (toString i, .number (.ofNat i)))
  | .date => .object []
  | .mergeMark => .number .nan

end Scalar

mutual

/-- What a document reads as when it is a key. -/
def keyText : Document → String
  | .absent => ""
  | .null => ""
  | .bool b => if b then "true" else "false"
  | .number n => n.text
  | .text s => s
  | .list items => "[ " ++ keyTexts items ++ " ]"
  | .object members => "\x7b " ++ memberTexts members ++ " \x7d"
termination_by structural document => document

def keyTexts : List Document → String
  | [] => ""
  | item :: rest => keyText item ++ ", " ++ keyTexts rest
termination_by structural items => items

def memberTexts : List (String × Document) → String
  | [] => ""
  | (name, item) :: rest => name ++ ": " ++ (keyText item ++ ", " ++ memberTexts rest)
termination_by structural members => members

end

namespace Anchored

/-- The position of the last node met under a name. -/
def position? (met : List Anchored) (name : String) : Option Nat :=
  (met.reverse.findIdx? fun anchored => anchored.name = name).map fun i =>
    met.length - 1 - i

end Anchored

mutual

/-- The weight of one use of a node: one, or the greatest weight of the aliases
below it. -/
def Node.weight (met : List Anchored) : Node → Nat
  | .scalar .. => 1
  | .alias name =>
      ((Anchored.position? met name).bind fun i => met[i]?).elim 0 fun anchored =>
        anchored.uses * anchored.weight
  | .list _ items => Node.greatestWeight met items
  | .map _ pairs => Node.greatestPairWeight met pairs
  | .sealed _ parts => Node.greatestWeight met parts
termination_by structural node => node

def Node.greatestWeight (met : List Anchored) : List Node → Nat
  | [] => 0
  | node :: rest => max (node.weight met) (Node.greatestWeight met rest)
termination_by structural nodes => nodes

def Node.greatestPairWeight (met : List Anchored) : List (Node × Option Node) → Nat
  | [] => 0
  | (key, some value) :: rest =>
      max (max (key.weight met) (value.weight met)) (Node.greatestPairWeight met rest)
  | (key, none) :: rest => max (max (key.weight met) 1) (Node.greatestPairWeight met rest)
termination_by structural pairs => pairs

end

namespace Resolver

variable {α β : Type}

/-- Does something for a node; if it has an anchor, the node is met before and
its document is known after. -/
def anchoring (anchor? : Option String) (node : Node) (initial : Document)
    (make : Resolver Document) : Resolver Document := fun met =>
  match anchor? with
  | none => make met
  | some name => do
      let (document, after) ← make (met ++ [⟨name, node, initial, 1, 0⟩])
      let after := after.modify met.length fun anchored =>
        { anchored with document := document }
      pure (document, after)

/-- What an alias stands for, counted as one more use. -/
def useAlias (name : String) : Resolver Document := fun met =>
  match (Anchored.position? met name).bind fun i => (met[i]?).map fun anchored => (i, anchored) with
  | none => .error .unresolvedAlias
  | some (i, anchored) =>
      let used := { anchored with uses := anchored.uses + 1 }
      let met := met.set i used
      let weight := if used.weight = 0 then used.node.weight met else used.weight
      let met := met.set i { used with weight := weight }
      if aliasLimit < used.uses * weight then .error .unresolvedAlias
      else .ok (used.document, met)

/-- What an alias stands for where it is merged, which does not count as a use. -/
def peekAlias (name : String) : Resolver Document := fun met =>
  match (Anchored.position? met name).bind fun i => met[i]? with
  | some anchored => .ok (anchored.document, met)
  | none => .error .unmergeable

/-- The members that a merged document brings: those of an object, or of all
objects in a list. -/
def mergedMembers : Document → Except Failure (List (String × Document))
  | .object members => .ok members
  | .list items => do
      let members ← items.mapM fun item =>
        match item with
        | .object members => .ok members
        | _ => .error .unmergeable
      pure members.flatten
  | _ => .error .unmergeable

/-- Adds members under names that are not taken yet. -/
def merge (members : List (String × Document)) :
    List (String × Document) → List (String × Document)
  | [] => members
  | (name, item) :: rest =>
      if Members.declares members name then merge members rest
      else merge (members ++ [(name, item)]) rest

end Resolver

mutual

/-- The document of a node. -/
def Node.document : Node → Resolver Document
  | .scalar anchor? value =>
      Resolver.anchoring anchor? (.scalar anchor? value) .null fun met =>
        .ok (value.document, met)
  | .alias name => Resolver.useAlias name
  | .list anchor? items =>
      Resolver.anchoring anchor? (.list anchor? items) (.list []) fun met => do
        let (found, met) ← Node.documents items met
        pure (.list found, met)
  | .map anchor? pairs =>
      Resolver.anchoring anchor? (.map anchor? pairs) (.object []) fun met => do
        let (members, met) ← Node.members pairs [] met
        pure (.object members, met)
  | .sealed anchor? parts =>
      Resolver.anchoring anchor? (.sealed anchor? parts) (.object []) fun met => do
        let (_, met) ← Node.documents parts met
        pure (.object [], met)
termination_by structural node => node

/-- The documents of some nodes in turn. -/
def Node.documents : List Node → Resolver (List Document)
  | [], met => .ok ([], met)
  | node :: rest, met => do
      let (first, met) ← node.document met
      let (others, met) ← Node.documents rest met
      pure (first :: others, met)
termination_by structural nodes => nodes

/-- The members of a map so far and those of some pairs in turn. -/
def Node.members : List (Node × Option Node) → List (String × Document) →
    Resolver (List (String × Document))
  | [], members, met => .ok (members, met)
  | (.scalar _ .mergeMark, value?) :: rest, members, met => do
      let (source, met) ← match value? with
        | some (.alias name) => Resolver.peekAlias name met
        | some value => value.document met
        | none => .error .unmergeable
      let merged ← Resolver.mergedMembers source
      Node.members rest (Resolver.merge members merged) met
  | (key, value?) :: rest, members, met => do
      let (keyDocument, met) ← key.document met
      let (item, met) ← match value? with
        | some value => value.document met
        | none => .ok (.null, met)
      Node.members rest (members ++ [(keyText keyDocument, item)]) met
termination_by structural pairs => pairs

end

end AttributeContracts.Yaml
