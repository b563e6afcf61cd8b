/-
# Plain form

The plain form of a value replaces each class and function by its name, each
array by its plain elements, and each constraint by its type's name and its
plain attributes; every other value stays as it is, and so does a hole of an
array. A synthesized constraint converts its stored values as they are, while
constraints below it are read, so an ill-typed value inside a nested constraint
makes the conversion fail.

The attributes of the result are assigned one by one to a fresh record, which
fixes their order and loses the one name that cannot be assigned.
-/

import AttributeContracts.Constraint.Reading

namespace AttributeContracts

/-- A value without constraints, classes or functions at its surface. -/
inductive Plain where
  | leaf (value : Value)
  | list (elements : List (Option Plain))
  /-- A constraint by the name of its type and its attributes. -/
  | instance (typeName : String) (attributes : List (String × Plain))

/-- The name that a record does not take by assignment. -/
def reservedName : String := "__proto__"

/-- The members of a fresh record after some assignments in turn. -/
def assignedMembers {α : Type} (assignments : Members α) : List (String × α) :=
  Members.enumerate (assignments.filter fun member => member.1 ≠ reservedName)

/-- Reads the listed attributes of a constraint in turn and gives each the plain
form that belongs to it; one that is not stored is `undefined`. -/
def Constraint.plainAttributes (c : Constraint) (forms : Members (Except Failure Plain)) :
    Except Failure Plain := do
  let names ← c.attributeNames
  let attributes ← names.mapM fun name => do
    let _ ← c.valueOf name
    let plain ← (Members.find? forms name).getD (.ok (.leaf .undefined))
    pure (name, plain)
  let type ← c.annotationType
  pure (.instance type.name (assignedMembers attributes))

mutual

/-- The plain form of a value. -/
def Value.plain : Value → Except Failure Plain
  | .function _ name => .ok (.leaf (.text name))
  | .classRef c => .ok (.leaf (.text c.name))
  | .array elements => Plain.list <$> Value.plainElements elements
  | .constraint c =>
      if (Value.constraint c).isConstraint then c.plainAttributes c.plainForms
      else .ok (.leaf (.constraint c))
  | .record identity bare members =>
      if (Value.record identity bare members).isConstraint then .error .misuse
      else .ok (.leaf (.record identity bare members))
  | value => .ok (.leaf value)
termination_by structural value => value

/-- The plain forms of the elements of an array, up to the first failure. -/
def Value.plainElements : List (Option Value) → Except Failure (List (Option Plain))
  | [] => .ok []
  | none :: rest => do
      let others ← Value.plainElements rest
      pure (none :: others)
  | some value :: rest => do
      let first ← value.plain
      let others ← Value.plainElements rest
      pure (some first :: others)
termination_by structural elements => elements

/-- The plain forms of stored values, under their names. -/
def Value.plainMembers : List (String × Value) → Members (Except Failure Plain)
  | [] => []
  | (name, value) :: rest => (name, value.plain) :: Value.plainMembers rest
termination_by structural values => values

/-- The plain forms of the scripted answers, under their names. -/
def Answer.plainMembers : List (String × Answer) → Members (Except Failure Plain)
  | [] => []
  | (name, answer) :: rest => (name, answer.plain) :: Answer.plainMembers rest
termination_by structural answers => answers

def Answer.plain : Answer → Except Failure Plain
  | .returns value => value.plain
  | .raises message => .error (.scripted message)
  | .throws value => .error (.thrown value)
termination_by structural answer => answer

/-- The plain forms of what a constraint holds, under their names. -/
def Constraint.plainForms : Constraint → Members (Except Failure Plain)
  | .synthesized _ _ values => Value.plainMembers values
  | .valid => []
  | .convertGroup _ source target => [("from", source.plain), ("to", target.plain)]
  | .literal _ _ answers _ _ _ => Answer.plainMembers answers
termination_by structural c => c

end

namespace Constraint

/-- The plain form of a synthesized constraint: its declared names with the
plain forms of the stored values, which are not checked. No other constraint
offers one of its own. -/
def toPlain (c : Constraint) : Except Failure Plain :=
  match c with
  | .synthesized _ type values => do
      let attributes ← type.attributeNames.mapM fun name => do
        let plain ← (Value.stored values name).plain
        pure (name, plain)
      pure (.instance type.name (assignedMembers attributes))
  | _ => .error .misuse

end Constraint

end AttributeContracts
