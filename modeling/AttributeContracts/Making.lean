/-
# Making things that have an identity

Classes, constraint types and constraints are told apart by who made them, so
each is made by an action that draws a fresh identity from the session. Two
things made by two of these actions are never the same, however alike they are.
-/

import AttributeContracts.Attribute.Map
import AttributeContracts.Session

namespace AttributeContracts

namespace ClassRef

/-- Makes a class below another one, or else below the class of all objects. -/
def define (name : String) (parent? : Option ClassRef) : Action ClassRef := do
  let identity ← Action.drawIdentity
  pure (.derived identity name (parent?.getD .object))

end ClassRef

namespace ConstraintType

/-- Makes a constraint type with some attribute definitions. -/
def define (name : String) (definitions : Members AttributeDefinition) :
    Action ConstraintType := do
  let identity ← Action.drawIdentity
  pure ⟨identity, name, definitions⟩

end ConstraintType

namespace Constraint

/-- Makes a synthesized constraint that stores copies of the values of a map. -/
def synthesize (type : ConstraintType) (values : AttributeMap) : Action Constraint := do
  let identity ← Action.drawIdentity
  pure (.ofValues identity type values.entries)

/-- Makes a group conversion. -/
def convert (source target : Value) : Action Constraint := do
  let identity ← Action.drawIdentity
  pure (.convertGroup identity source target)

/-- Makes a hand-written constraint. Without a text of its own it reads like any
other object. -/
def script (type : ConstraintType) (answers : Members Answer) (names? : Option (List String))
    (text? : Option Answer) (missing : List Method) : Action Constraint := do
  let identity ← Action.drawIdentity
  let text := text?.getD (.returns (.text (objectText "Object")))
  pure (.literal identity type answers names? text missing)

end Constraint

end AttributeContracts
