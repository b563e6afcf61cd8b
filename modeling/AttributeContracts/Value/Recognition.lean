/-
# Recognising constraints

Constraints are recognised by their methods. Guards and messages look for two of
them, comparisons and conversions for all three. A record whose members happen
to be functions of those names is taken for a constraint as well.
-/

import AttributeContracts.Value

namespace AttributeContracts

namespace Constraint

/-- The type a constraint was made with. -/
def type : Constraint → ConstraintType
  | .synthesized _ type _ => type
  | .valid => .valid
  | .convertGroup .. => .convertGroup
  | .literal _ type _ _ _ _ => type

/-- Whether a constraint has a method; only one written by hand may lack some. -/
def offers : Constraint → Method → Bool
  | .literal _ _ _ _ _ missing, method => !missing.contains method
  | _, _ => true

end Constraint

/-- The name a method is looked up by. -/
def Method.name : Method → String
  | .annotationType => "annotationType"
  | .attribute => "attribute"
  | .attributeNames => "attributeNames"

namespace Value

/-- Whether a value can be called at all. -/
def isCallable : Value → Bool
  | .function .. => true
  | .classRef _ => true
  | _ => false

/-- Whether a value has a method: a constraint offers it, or a record has a
callable member of its name. -/
def offers : Value → Method → Bool
  | .constraint c, method => c.offers method
  | .record _ _ members, method => (Members.find? members method.name).any isCallable
  | _, _ => false

/-- Whether a value is taken for a constraint by guards and messages. -/
def isConstraintLike (value : Value) : Bool :=
  value.offers .annotationType && value.offers .attribute

/-- Whether a value has all the methods of a constraint. -/
def isConstraint (value : Value) : Bool :=
  value.isConstraintLike && value.offers .attributeNames

end Value

end AttributeContracts
